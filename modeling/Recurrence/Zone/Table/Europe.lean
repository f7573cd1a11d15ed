import Recurrence.Zone.Basic

namespace Recurrence.Zone.Table

/-- The zone Europe/Dublin. -/
def dublin : Zone :=
  .ofTable "Europe/Dublin" (some ⟨"LMT", -1521⟩) (.winter (-1521)) [
    (-2821649679, .winter (-1521)), (-1691962479, .summer 2079), (-1680471279, .winter 0),
    (-1664143200, .summer 3600), (-1650146400, .winter 0), (-1633903200, .summer 3600),
    (-1617487200, .winter 0), (-1601848800, .summer 3600), (-1586037600, .winter 0),
    (-1570399200, .summer 3600), (-1552168800, .winter 0), (-1538344800, .summer 3600),
    (-1522533600, .winter 0), (-1507500000, .summer 3600), (-1490565600, .winter 0),
    (-1473631200, .summer 3600), (-1460930400, .winter 0), (-1442786400, .summer 3600),
    (-1428876000, .winter 0), (-1410732000, .summer 3600), (-1396216800, .winter 0),
    (-1379282400, .summer 3600), (-1364767200, .winter 0), (-1348437600, .summer 3600),
    (-1333317600, .winter 0), (-1315778400, .summer 3600), (-1301263200, .winter 0),
    (-1284328800, .summer 3600), (-1269813600, .winter 0), (-1253484000, .summer 3600),
    (-1238364000, .winter 0), (-1221429600, .summer 3600), (-1206914400, .winter 0),
    (-1189980000, .summer 3600), (-1175464800, .winter 0), (-1159135200, .summer 3600),
    (-1143410400, .winter 0), (-1126476000, .summer 3600), (-1111960800, .winter 0),
    (-1095631200, .summer 3600), (-1080511200, .winter 0), (-1063576800, .summer 3600),
    (-1049061600, .winter 0), (-1032127200, .summer 3600), (-1017612000, .winter 0),
    (-1001282400, .summer 3600), (-986162400, .winter 0), (-969228000, .summer 3600),
    (-950479200, .winter 0), (-942012000, .summer 3600), (-733356000, .winter 0),
    (-719445600, .summer 3600), (-699487200, .winter 0), (-684972000, .summer 3600),
    (-668037600, .winter 0), (-654732000, .summer 3600), (-636588000, .winter 0),
    (-622072800, .summer 3600), (-605743200, .winter 0), (-590623200, .summer 3600),
    (-574293600, .winter 0), (-558568800, .summer 3600), (-542239200, .winter 0),
    (-527119200, .summer 3600), (-512604000, .winter 0), (-496274400, .summer 3600),
    (-481154400, .winter 0), (-464220000, .summer 3600), (-449704800, .winter 0),
    (-432165600, .summer 3600), (-417650400, .winter 0), (-401320800, .summer 3600),
    (-386200800, .winter 0), (-369266400, .summer 3600), (-354751200, .winter 0),
    (-337816800, .summer 3600), (-323301600, .winter 0), (-306972000, .summer 3600),
    (-291852000, .winter 0), (-276732000, .summer 3600), (-257983200, .winter 0),
    (-245282400, .summer 3600), (-226533600, .winter 0), (-213228000, .summer 3600),
    (-195084000, .winter 0), (-182383200, .summer 3600), (-163634400, .winter 0),
    (-150933600, .summer 3600), (-132184800, .winter 0), (-119484000, .summer 3600),
    (-100735200, .winter 0), (-88034400, .summer 3600), (-68680800, .winter 0),
    (-59004000, .summer 3600), (-37242000, .winter 3600), (57722400, .summer 0),
    (69818400, .winter 3600), (89172000, .summer 0), (101268000, .winter 3600),
    (120621600, .summer 0), (132717600, .winter 3600), (152071200, .summer 0),
    (164167200, .winter 3600), (183520800, .summer 0), (196221600, .winter 3600),
    (214970400, .summer 0), (227671200, .winter 3600), (246420000, .summer 0),
    (259120800, .winter 3600), (278474400, .summer 0), (290570400, .winter 3600),
    (309924000, .summer 0), (322020000, .winter 3600), (341373600, .summer 0),
    (354675600, .winter 3600), (372819600, .summer 0), (386125200, .winter 3600),
    (404269200, .summer 0), (417574800, .winter 3600), (435718800, .summer 0),
    (449024400, .winter 3600), (467773200, .summer 0), (481078800, .winter 3600),
    (499222800, .summer 0), (512528400, .winter 3600), (530672400, .summer 0),
    (543978000, .winter 3600), (562122000, .summer 0), (575427600, .winter 3600),
    (593571600, .summer 0), (606877200, .winter 3600), (625626000, .summer 0),
    (638326800, .winter 3600), (657075600, .summer 0), (670381200, .winter 3600),
    (688525200, .summer 0), (701830800, .winter 3600), (719974800, .summer 0),
    (733280400, .winter 3600), (751424400, .summer 0), (764730000, .winter 3600),
    (782874000, .summer 0), (796179600, .winter 3600), (814323600, .summer 0),
    (828234000, .winter 3600), (846378000, .summer 0), (859683600, .winter 3600),
    (877827600, .summer 0), (891133200, .winter 3600), (909277200, .summer 0),
    (922582800, .winter 3600), (941331600, .summer 0), (954032400, .winter 3600),
    (972781200, .summer 0), (985482000, .winter 3600), (1004230800, .summer 0),
    (1017536400, .winter 3600), (1035680400, .summer 0), (1048986000, .winter 3600),
    (1067130000, .summer 0), (1080435600, .winter 3600), (1099184400, .summer 0),
    (1111885200, .winter 3600), (1130634000, .summer 0), (1143334800, .winter 3600),
    (1162083600, .summer 0)]
    (some ⟨.winter 3600, .summer 0, ⟨10, 5, 0, 7200⟩, ⟨3, 5, 0, 3600⟩⟩) 2007

/-- The zone Europe/London. -/
def london : Zone :=
  .ofTable "Europe/London" (some ⟨"LMT", -75⟩) (.winter (-75)) [
    (-3852662325, .winter 0), (-1691964000, .summer 3600), (-1680472800, .winter 0),
    (-1664143200, .summer 3600), (-1650146400, .winter 0), (-1633903200, .summer 3600),
    (-1617487200, .winter 0), (-1601848800, .summer 3600), (-1586037600, .winter 0),
    (-1570399200, .summer 3600), (-1552168800, .winter 0), (-1538344800, .summer 3600),
    (-1522533600, .winter 0), (-1507500000, .summer 3600), (-1490565600, .winter 0),
    (-1473631200, .summer 3600), (-1460930400, .winter 0), (-1442786400, .summer 3600),
    (-1428876000, .winter 0), (-1410732000, .summer 3600), (-1396216800, .winter 0),
    (-1379282400, .summer 3600), (-1364767200, .winter 0), (-1348437600, .summer 3600),
    (-1333317600, .winter 0), (-1315778400, .summer 3600), (-1301263200, .winter 0),
    (-1284328800, .summer 3600), (-1269813600, .winter 0), (-1253484000, .summer 3600),
    (-1238364000, .winter 0), (-1221429600, .summer 3600), (-1206914400, .winter 0),
    (-1189980000, .summer 3600), (-1175464800, .winter 0), (-1159135200, .summer 3600),
    (-1143410400, .winter 0), (-1126476000, .summer 3600), (-1111960800, .winter 0),
    (-1095631200, .summer 3600), (-1080511200, .winter 0), (-1063576800, .summer 3600),
    (-1049061600, .winter 0), (-1032127200, .summer 3600), (-1017612000, .winter 0),
    (-1001282400, .summer 3600), (-986162400, .winter 0), (-969228000, .summer 3600),
    (-950479200, .winter 0), (-942012000, .summer 3600), (-904518000, .summer 7200),
    (-896050800, .summer 3600), (-875487600, .summer 7200), (-864601200, .summer 3600),
    (-844038000, .summer 7200), (-832546800, .summer 3600), (-812588400, .summer 7200),
    (-798073200, .summer 3600), (-781052400, .summer 7200), (-772066800, .summer 3600),
    (-764805600, .winter 0), (-748476000, .summer 3600), (-733356000, .winter 0),
    (-719445600, .summer 3600), (-717030000, .summer 7200), (-706748400, .summer 3600),
    (-699487200, .winter 0), (-687996000, .summer 3600), (-668037600, .winter 0),
    (-654732000, .summer 3600), (-636588000, .winter 0), (-622072800, .summer 3600),
    (-605743200, .winter 0), (-590623200, .summer 3600), (-574293600, .winter 0),
    (-558568800, .summer 3600), (-542239200, .winter 0), (-527119200, .summer 3600),
    (-512604000, .winter 0), (-496274400, .summer 3600), (-481154400, .winter 0),
    (-464220000, .summer 3600), (-449704800, .winter 0), (-432165600, .summer 3600),
    (-417650400, .winter 0), (-401320800, .summer 3600), (-386200800, .winter 0),
    (-369266400, .summer 3600), (-354751200, .winter 0), (-337816800, .summer 3600),
    (-323301600, .winter 0), (-306972000, .summer 3600), (-291852000, .winter 0),
    (-276732000, .summer 3600), (-257983200, .winter 0), (-245282400, .summer 3600),
    (-226533600, .winter 0), (-213228000, .summer 3600), (-195084000, .winter 0),
    (-182383200, .summer 3600), (-163634400, .winter 0), (-150933600, .summer 3600),
    (-132184800, .winter 0), (-119484000, .summer 3600), (-100735200, .winter 0),
    (-88034400, .summer 3600), (-68680800, .winter 0), (-59004000, .summer 3600),
    (-37242000, .winter 3600), (57722400, .winter 0), (69818400, .summer 3600),
    (89172000, .winter 0), (101268000, .summer 3600), (120621600, .winter 0),
    (132717600, .summer 3600), (152071200, .winter 0), (164167200, .summer 3600),
    (183520800, .winter 0), (196221600, .summer 3600), (214970400, .winter 0),
    (227671200, .summer 3600), (246420000, .winter 0), (259120800, .summer 3600),
    (278474400, .winter 0), (290570400, .summer 3600), (309924000, .winter 0),
    (322020000, .summer 3600), (341373600, .winter 0), (354675600, .summer 3600),
    (372819600, .winter 0), (386125200, .summer 3600), (404269200, .winter 0),
    (417574800, .summer 3600), (435718800, .winter 0), (449024400, .summer 3600),
    (467773200, .winter 0), (481078800, .summer 3600), (499222800, .winter 0),
    (512528400, .summer 3600), (530672400, .winter 0), (543978000, .summer 3600),
    (562122000, .winter 0), (575427600, .summer 3600), (593571600, .winter 0),
    (606877200, .summer 3600), (625626000, .winter 0), (638326800, .summer 3600),
    (657075600, .winter 0), (670381200, .summer 3600), (688525200, .winter 0),
    (701830800, .summer 3600), (719974800, .winter 0), (733280400, .summer 3600),
    (751424400, .winter 0), (764730000, .summer 3600), (782874000, .winter 0),
    (796179600, .summer 3600), (814323600, .winter 0), (820454400, .winter 0),
    (828234000, .summer 3600), (846378000, .winter 0)]
    (some ⟨.winter 0, .summer 3600, ⟨3, 5, 0, 3600⟩, ⟨10, 5, 0, 7200⟩⟩) 1997

/-- The zone Europe/Moscow. -/
def moscow : Zone :=
  .ofTable "Europe/Moscow" (some ⟨"LMT", 9017⟩) (.winter 9017) [
    (-2840149817, .winter 9017), (-1688265017, .winter 9079), (-1656819079, .summer 12679),
    (-1641353479, .winter 9079), (-1627965079, .summer 16279), (-1618716679, .summer 12679),
    (-1596429079, .summer 16279), (-1593820800, .summer 14400), (-1589860800, .winter 10800),
    (-1542427200, .summer 14400), (-1539493200, .summer 18000), (-1525323600, .summer 14400),
    (-1522728000, .winter 10800), (-1491188400, .winter 7200), (-1247536800, .winter 10800),
    (354920400, .summer 14400), (370728000, .winter 10800), (386456400, .summer 14400),
    (402264000, .winter 10800), (417992400, .summer 14400), (433800000, .winter 10800),
    (449614800, .summer 14400), (465346800, .winter 10800), (481071600, .summer 14400),
    (496796400, .winter 10800), (512521200, .summer 14400), (528246000, .winter 10800),
    (543970800, .summer 14400), (559695600, .winter 10800), (575420400, .summer 14400),
    (591145200, .winter 10800), (606870000, .summer 14400), (622594800, .winter 10800),
    (638319600, .summer 14400), (654649200, .winter 10800), (670374000, .summer 10800),
    (686102400, .winter 7200), (695779200, .winter 10800), (701823600, .summer 14400),
    (717548400, .winter 10800), (733273200, .summer 14400), (748998000, .winter 10800),
    (764722800, .summer 14400), (780447600, .winter 10800), (796172400, .summer 14400),
    (811897200, .winter 10800), (828226800, .summer 14400), (846370800, .winter 10800),
    (859676400, .summer 14400), (877820400, .winter 10800), (891126000, .summer 14400),
    (909270000, .winter 10800), (922575600, .summer 14400), (941324400, .winter 10800),
    (954025200, .summer 14400), (972774000, .winter 10800), (985474800, .summer 14400),
    (1004223600, .winter 10800), (1017529200, .summer 14400), (1035673200, .winter 10800),
    (1048978800, .summer 14400), (1067122800, .winter 10800), (1080428400, .summer 14400),
    (1099177200, .winter 10800), (1111878000, .summer 14400), (1130626800, .winter 10800),
    (1143327600, .summer 14400), (1162076400, .winter 10800), (1174777200, .summer 14400),
    (1193526000, .winter 10800), (1206831600, .summer 14400), (1224975600, .winter 10800),
    (1238281200, .summer 14400), (1256425200, .winter 10800), (1269730800, .summer 14400),
    (1288479600, .winter 10800), (1301180400, .winter 14400), (1414274400, .winter 10800)]
    none 1

/-- The zone Europe/Paris. -/
def paris : Zone :=
  .ofTable "Europe/Paris" (some ⟨"LMT", 561⟩) (.winter 561) [
    (-2486592561, .winter 561), (-1855958961, .winter 0), (-1689814800, .summer 3600),
    (-1680397200, .winter 0), (-1665363600, .summer 3600), (-1648342800, .winter 0),
    (-1635123600, .summer 3600), (-1616893200, .winter 0), (-1604278800, .summer 3600),
    (-1585443600, .winter 0), (-1574038800, .summer 3600), (-1552266000, .winter 0),
    (-1539997200, .summer 3600), (-1520557200, .winter 0), (-1507510800, .summer 3600),
    (-1490576400, .winter 0), (-1470618000, .summer 3600), (-1459126800, .winter 0),
    (-1444006800, .summer 3600), (-1427677200, .winter 0), (-1411952400, .summer 3600),
    (-1396227600, .winter 0), (-1379293200, .summer 3600), (-1364778000, .winter 0),
    (-1348448400, .summer 3600), (-1333328400, .winter 0), (-1316394000, .summer 3600),
    (-1301274000, .winter 0), (-1284339600, .summer 3600), (-1269824400, .winter 0),
    (-1253494800, .summer 3600), (-1238374800, .winter 0), (-1221440400, .summer 3600),
    (-1206925200, .winter 0), (-1191200400, .summer 3600), (-1175475600, .winter 0),
    (-1160355600, .summer 3600), (-1143421200, .winter 0), (-1127696400, .summer 3600),
    (-1111971600, .winter 0), (-1096851600, .summer 3600), (-1080522000, .winter 0),
    (-1063587600, .summer 3600), (-1049072400, .winter 0), (-1033347600, .summer 3600),
    (-1017622800, .winter 0), (-1002502800, .summer 3600), (-986173200, .winter 0),
    (-969238800, .summer 3600), (-950490000, .winter 0), (-942012000, .summer 3600),
    (-932436000, .summer 7200), (-857257200, .winter 3600), (-844556400, .summer 7200),
    (-828226800, .winter 3600), (-812502000, .summer 7200), (-800071200, .summer 7200),
    (-796266000, .summer 3600), (-781052400, .summer 7200), (-766623600, .winter 3600),
    (196819200, .summer 7200), (212540400, .winter 3600), (228877200, .summer 7200),
    (243997200, .winter 3600), (260326800, .summer 7200), (276051600, .winter 3600),
    (291776400, .summer 7200), (307501200, .winter 3600), (323830800, .summer 7200),
    (338950800, .winter 3600), (354675600, .summer 7200), (370400400, .winter 3600),
    (386125200, .summer 7200), (401850000, .winter 3600), (417574800, .summer 7200),
    (433299600, .winter 3600), (449024400, .summer 7200), (465354000, .winter 3600),
    (481078800, .summer 7200), (496803600, .winter 3600), (512528400, .summer 7200),
    (528253200, .winter 3600), (543978000, .summer 7200), (559702800, .winter 3600),
    (575427600, .summer 7200), (591152400, .winter 3600), (606877200, .summer 7200),
    (622602000, .winter 3600), (638326800, .summer 7200), (654656400, .winter 3600),
    (670381200, .summer 7200), (686106000, .winter 3600), (701830800, .summer 7200),
    (717555600, .winter 3600), (733280400, .summer 7200), (749005200, .winter 3600),
    (764730000, .summer 7200), (780454800, .winter 3600), (796179600, .summer 7200),
    (811904400, .winter 3600), (828234000, .summer 7200), (846378000, .winter 3600),
    (859683600, .summer 7200), (877827600, .winter 3600), (891133200, .summer 7200),
    (909277200, .winter 3600), (922582800, .summer 7200), (941331600, .winter 3600),
    (954032400, .summer 7200), (972781200, .winter 3600), (985482000, .summer 7200),
    (1004230800, .winter 3600), (1017536400, .summer 7200), (1035680400, .winter 3600),
    (1048986000, .summer 7200), (1067130000, .winter 3600), (1080435600, .summer 7200),
    (1099184400, .winter 3600), (1111885200, .summer 7200), (1130634000, .winter 3600),
    (1143334800, .summer 7200), (1162083600, .winter 3600)]
    (some ⟨.winter 3600, .summer 7200, ⟨3, 5, 0, 7200⟩, ⟨10, 5, 0, 10800⟩⟩) 2007

/-- The zone CET. -/
def centralEuropean : Zone :=
  .ofTable "CET" (some ⟨"LMT", 1050⟩) (.winter 1050) [
    (-2840141850, .winter 1050), (-2450995200, .winter 0), (-1740355200, .winter 3600),
    (-1693702800, .summer 7200), (-1680483600, .winter 3600), (-1663455600, .summer 7200),
    (-1650150000, .winter 3600), (-1632006000, .summer 7200), (-1618700400, .winter 3600),
    (-1613826000, .winter 0), (-1604278800, .summer 3600), (-1585530000, .winter 0),
    (-1574038800, .summer 3600), (-1552266000, .winter 0), (-1539997200, .summer 3600),
    (-1520557200, .winter 0), (-1507510800, .summer 3600), (-1490576400, .winter 0),
    (-1473642000, .summer 3600), (-1459126800, .winter 0), (-1444006800, .summer 3600),
    (-1427677200, .winter 0), (-1411952400, .summer 3600), (-1396227600, .winter 0),
    (-1379293200, .summer 3600), (-1364778000, .winter 0), (-1348448400, .summer 3600),
    (-1333328400, .winter 0), (-1316394000, .summer 3600), (-1301263200, .winter 0),
    (-1284328800, .summer 3600), (-1269813600, .winter 0), (-1253484000, .summer 3600),
    (-1238364000, .winter 0), (-1221429600, .summer 3600), (-1206914400, .winter 0),
    (-1191189600, .summer 3600), (-1175464800, .winter 0), (-1160344800, .summer 3600),
    (-1143410400, .winter 0), (-1127685600, .summer 3600), (-1111960800, .winter 0),
    (-1096840800, .summer 3600), (-1080511200, .winter 0), (-1063576800, .summer 3600),
    (-1049061600, .winter 0), (-1033336800, .summer 3600), (-1017612000, .winter 0),
    (-1002492000, .summer 3600), (-986162400, .winter 0), (-969228000, .summer 3600),
    (-950479200, .winter 0), (-942012000, .summer 3600), (-934668000, .summer 7200),
    (-857257200, .winter 3600), (-844556400, .summer 7200), (-828226800, .winter 3600),
    (-812502000, .summer 7200), (-798073200, .winter 3600), (-781052400, .summer 7200),
    (-766623600, .winter 3600), (-745455600, .summer 7200), (-733273200, .winter 3600),
    (228877200, .summer 7200), (243997200, .winter 3600), (260326800, .summer 7200),
    (276051600, .winter 3600), (291776400, .summer 7200), (307501200, .winter 3600),
    (323830800, .summer 7200), (338950800, .winter 3600), (354675600, .summer 7200),
    (370400400, .winter 3600), (386125200, .summer 7200), (401850000, .winter 3600),
    (417574800, .summer 7200), (433299600, .winter 3600), (449024400, .summer 7200),
    (465354000, .winter 3600), (481078800, .summer 7200), (496803600, .winter 3600),
    (512528400, .summer 7200), (528253200, .winter 3600), (543978000, .summer 7200),
    (559702800, .winter 3600), (575427600, .summer 7200), (591152400, .winter 3600),
    (606877200, .summer 7200), (622602000, .winter 3600), (638326800, .summer 7200),
    (654656400, .winter 3600), (670381200, .summer 7200), (686106000, .winter 3600),
    (701830800, .summer 7200), (717555600, .winter 3600), (733280400, .summer 7200),
    (749005200, .winter 3600), (764730000, .summer 7200), (780454800, .winter 3600),
    (796179600, .summer 7200), (811904400, .winter 3600), (828234000, .summer 7200),
    (846378000, .winter 3600), (859683600, .summer 7200), (877827600, .winter 3600),
    (891133200, .summer 7200), (909277200, .winter 3600), (922582800, .summer 7200),
    (941331600, .winter 3600), (954032400, .summer 7200), (972781200, .winter 3600),
    (985482000, .summer 7200), (1004230800, .winter 3600), (1017536400, .summer 7200),
    (1035680400, .winter 3600), (1048986000, .summer 7200), (1067130000, .winter 3600),
    (1080435600, .summer 7200), (1099184400, .winter 3600), (1111885200, .summer 7200),
    (1130634000, .winter 3600), (1143334800, .summer 7200), (1162083600, .winter 3600)]
    (some ⟨.winter 3600, .summer 7200, ⟨3, 5, 0, 7200⟩, ⟨10, 5, 0, 10800⟩⟩) 2007

end Recurrence.Zone.Table
