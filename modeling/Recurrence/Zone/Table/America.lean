import Recurrence.Zone.Basic

namespace Recurrence.Zone.Table

/-- The zone America/Havana. -/
def havana : Zone :=
  .ofTable "America/Havana" (some ⟨"LMT", -19768⟩) (.winter (-19768)) [
    (-2524501832, .winter (-19776)), (-1402813824, .winter (-18000)),
    (-1311534000, .summer (-14400)), (-1300996800, .winter (-18000)),
    (-933534000, .summer (-14400)), (-925675200, .winter (-18000)), (-902084400, .summer (-14400)),
    (-893620800, .winter (-18000)), (-870030000, .summer (-14400)), (-862171200, .winter (-18000)),
    (-775681200, .summer (-14400)), (-767822400, .winter (-18000)), (-744231600, .summer (-14400)),
    (-736372800, .winter (-18000)), (-144702000, .summer (-14400)), (-134251200, .winter (-18000)),
    (-113425200, .summer (-14400)), (-102542400, .winter (-18000)), (-86295600, .summer (-14400)),
    (-72907200, .winter (-18000)), (-54154800, .summer (-14400)), (-41457600, .winter (-18000)),
    (-21495600, .summer (-14400)), (-5774400, .winter (-18000)), (9954000, .summer (-14400)),
    (25675200, .winter (-18000)), (41403600, .summer (-14400)), (57729600, .winter (-18000)),
    (73458000, .summer (-14400)), (87364800, .winter (-18000)), (104907600, .summer (-14400)),
    (118900800, .winter (-18000)), (136357200, .summer (-14400)), (150436800, .winter (-18000)),
    (167806800, .summer (-14400)), (183528000, .winter (-18000)), (199256400, .summer (-14400)),
    (215582400, .winter (-18000)), (230706000, .summer (-14400)), (247032000, .winter (-18000)),
    (263365200, .summer (-14400)), (276667200, .winter (-18000)), (290581200, .summer (-14400)),
    (308721600, .winter (-18000)), (322030800, .summer (-14400)), (340171200, .winter (-18000)),
    (358318800, .summer (-14400)), (371620800, .winter (-18000)), (389768400, .summer (-14400)),
    (403070400, .winter (-18000)), (421218000, .summer (-14400)), (434520000, .winter (-18000)),
    (452667600, .summer (-14400)), (466574400, .winter (-18000)), (484117200, .summer (-14400)),
    (498024000, .winter (-18000)), (511333200, .summer (-14400)), (529473600, .winter (-18000)),
    (542782800, .summer (-14400)), (560923200, .winter (-18000)), (574837200, .summer (-14400)),
    (592372800, .winter (-18000)), (606286800, .summer (-14400)), (623822400, .winter (-18000)),
    (638946000, .summer (-14400)), (655876800, .winter (-18000)), (671000400, .summer (-14400)),
    (687330000, .winter (-18000)), (702450000, .summer (-14400)), (718779600, .winter (-18000)),
    (733899600, .summer (-14400)), (750229200, .winter (-18000)), (765349200, .summer (-14400)),
    (781678800, .winter (-18000)), (796798800, .summer (-14400)), (813128400, .winter (-18000)),
    (828853200, .summer (-14400)), (844578000, .winter (-18000)), (860302800, .summer (-14400)),
    (876632400, .winter (-18000)), (891147600, .summer (-14400)), (909291600, .winter (-18000)),
    (922597200, .summer (-14400)), (941346000, .winter (-18000)), (954651600, .summer (-14400)),
    (972795600, .winter (-18000)), (986101200, .summer (-14400)), (1004245200, .winter (-18000)),
    (1018155600, .summer (-14400)), (1035694800, .winter (-18000)), (1049605200, .summer (-14400)),
    (1067144400, .winter (-18000)), (1080450000, .summer (-14400)), (1162098000, .winter (-18000)),
    (1173589200, .summer (-14400)), (1193547600, .winter (-18000)), (1205643600, .summer (-14400)),
    (1224997200, .winter (-18000)), (1236488400, .summer (-14400)), (1256446800, .winter (-18000)),
    (1268542800, .summer (-14400)), (1288501200, .winter (-18000)), (1300597200, .summer (-14400)),
    (1321160400, .winter (-18000)), (1333256400, .summer (-14400)), (1352005200, .winter (-18000))]
    (some ⟨.winter (-18000), .summer (-14400), ⟨3, 2, 0, 0⟩, ⟨11, 1, 0, 3600⟩⟩) 2013

/-- The zone America/Los_Angeles. -/
def losAngeles : Zone :=
  .ofTable "America/Los_Angeles" (some ⟨"LMT", -28378⟩) (.winter (-28378)) [
    (-2717640000, .winter (-28800)), (-1633269600, .summer (-25200)),
    (-1615129200, .winter (-28800)), (-1601820000, .summer (-25200)),
    (-1583679600, .winter (-28800)), (-880207200, .summer (-25200)), (-769395600, .summer (-25200)),
    (-765385200, .winter (-28800)), (-687967140, .summer (-25200)), (-662655600, .winter (-28800)),
    (-620838000, .summer (-25200)), (-608137200, .winter (-28800)), (-589388400, .summer (-25200)),
    (-576082800, .winter (-28800)), (-557938800, .summer (-25200)), (-544633200, .winter (-28800)),
    (-526489200, .summer (-25200)), (-513183600, .winter (-28800)), (-495039600, .summer (-25200)),
    (-481734000, .winter (-28800)), (-463590000, .summer (-25200)), (-450284400, .winter (-28800)),
    (-431535600, .summer (-25200)), (-418230000, .winter (-28800)), (-400086000, .summer (-25200)),
    (-386780400, .winter (-28800)), (-368636400, .summer (-25200)), (-355330800, .winter (-28800)),
    (-337186800, .summer (-25200)), (-323881200, .winter (-28800)), (-305737200, .summer (-25200)),
    (-292431600, .winter (-28800)), (-273682800, .summer (-25200)), (-260982000, .winter (-28800)),
    (-242233200, .summer (-25200)), (-226508400, .winter (-28800)), (-210783600, .summer (-25200)),
    (-195058800, .winter (-28800)), (-179334000, .summer (-25200)), (-163609200, .winter (-28800)),
    (-147884400, .summer (-25200)), (-131554800, .winter (-28800)), (-116434800, .summer (-25200)),
    (-100105200, .winter (-28800)), (-84376800, .summer (-25200)), (-68655600, .winter (-28800)),
    (-52927200, .summer (-25200)), (-37206000, .winter (-28800)), (-21477600, .summer (-25200)),
    (-5756400, .winter (-28800)), (9972000, .summer (-25200)), (25693200, .winter (-28800)),
    (41421600, .summer (-25200)), (57747600, .winter (-28800)), (73476000, .summer (-25200)),
    (89197200, .winter (-28800)), (104925600, .summer (-25200)), (120646800, .winter (-28800)),
    (126698400, .summer (-25200)), (152096400, .winter (-28800)), (162381600, .summer (-25200)),
    (183546000, .winter (-28800)), (199274400, .summer (-25200)), (215600400, .winter (-28800)),
    (230724000, .summer (-25200)), (247050000, .winter (-28800)), (262778400, .summer (-25200)),
    (278499600, .winter (-28800)), (294228000, .summer (-25200)), (309949200, .winter (-28800)),
    (325677600, .summer (-25200)), (341398800, .winter (-28800)), (357127200, .summer (-25200)),
    (372848400, .winter (-28800)), (388576800, .summer (-25200)), (404902800, .winter (-28800)),
    (420026400, .summer (-25200)), (436352400, .winter (-28800)), (452080800, .summer (-25200)),
    (467802000, .winter (-28800)), (483530400, .summer (-25200)), (499251600, .winter (-28800)),
    (514980000, .summer (-25200)), (530701200, .winter (-28800)), (544615200, .summer (-25200)),
    (562150800, .winter (-28800)), (576064800, .summer (-25200)), (594205200, .winter (-28800)),
    (607514400, .summer (-25200)), (625654800, .winter (-28800)), (638964000, .summer (-25200)),
    (657104400, .winter (-28800)), (671018400, .summer (-25200)), (688554000, .winter (-28800)),
    (702468000, .summer (-25200)), (720003600, .winter (-28800)), (733917600, .summer (-25200)),
    (752058000, .winter (-28800)), (765367200, .summer (-25200)), (783507600, .winter (-28800)),
    (796816800, .summer (-25200)), (814957200, .winter (-28800)), (828871200, .summer (-25200)),
    (846406800, .winter (-28800)), (860320800, .summer (-25200)), (877856400, .winter (-28800)),
    (891770400, .summer (-25200)), (909306000, .winter (-28800)), (923220000, .summer (-25200)),
    (941360400, .winter (-28800)), (954669600, .summer (-25200)), (972810000, .winter (-28800)),
    (986119200, .summer (-25200)), (1004259600, .winter (-28800)), (1018173600, .summer (-25200)),
    (1035709200, .winter (-28800)), (1049623200, .summer (-25200)), (1067158800, .winter (-28800)),
    (1081072800, .summer (-25200)), (1099213200, .winter (-28800)), (1112522400, .summer (-25200)),
    (1130662800, .winter (-28800)), (1143972000, .summer (-25200)), (1162112400, .winter (-28800)),
    (1173607200, .summer (-25200)), (1194166800, .winter (-28800))]
    (some ⟨.winter (-28800), .summer (-25200), ⟨3, 2, 0, 7200⟩, ⟨11, 1, 0, 7200⟩⟩) 2008

/-- The zone America/New_York. -/
def newYork : Zone :=
  .ofTable "America/New_York" (some ⟨"LMT", -17762⟩) (.winter (-17762)) [
    (-2717650800, .winter (-18000)), (-1633280400, .summer (-14400)),
    (-1615140000, .winter (-18000)), (-1601830800, .summer (-14400)),
    (-1583690400, .winter (-18000)), (-1570381200, .summer (-14400)),
    (-1551636000, .winter (-18000)), (-1536512400, .summer (-14400)),
    (-1523210400, .winter (-18000)), (-1504458000, .summer (-14400)),
    (-1491760800, .winter (-18000)), (-1473008400, .summer (-14400)),
    (-1459706400, .winter (-18000)), (-1441558800, .summer (-14400)),
    (-1428256800, .winter (-18000)), (-1410109200, .summer (-14400)),
    (-1396807200, .winter (-18000)), (-1378659600, .summer (-14400)),
    (-1365357600, .winter (-18000)), (-1347210000, .summer (-14400)),
    (-1333908000, .winter (-18000)), (-1315155600, .summer (-14400)),
    (-1301853600, .winter (-18000)), (-1283706000, .summer (-14400)),
    (-1270404000, .winter (-18000)), (-1252256400, .summer (-14400)),
    (-1238954400, .winter (-18000)), (-1220806800, .summer (-14400)),
    (-1207504800, .winter (-18000)), (-1189357200, .summer (-14400)),
    (-1176055200, .winter (-18000)), (-1157302800, .summer (-14400)),
    (-1144605600, .winter (-18000)), (-1125853200, .summer (-14400)),
    (-1112551200, .winter (-18000)), (-1094403600, .summer (-14400)),
    (-1081101600, .winter (-18000)), (-1062954000, .summer (-14400)),
    (-1049652000, .winter (-18000)), (-1031504400, .summer (-14400)),
    (-1018202400, .winter (-18000)), (-1000054800, .summer (-14400)),
    (-986752800, .winter (-18000)), (-968000400, .summer (-14400)), (-955303200, .winter (-18000)),
    (-936550800, .summer (-14400)), (-923248800, .winter (-18000)), (-905101200, .summer (-14400)),
    (-891799200, .winter (-18000)), (-880218000, .summer (-14400)), (-769395600, .summer (-14400)),
    (-765396000, .winter (-18000)), (-747248400, .summer (-14400)), (-733946400, .winter (-18000)),
    (-715798800, .summer (-14400)), (-702496800, .winter (-18000)), (-684349200, .summer (-14400)),
    (-671047200, .winter (-18000)), (-652899600, .summer (-14400)), (-639597600, .winter (-18000)),
    (-620845200, .summer (-14400)), (-608148000, .winter (-18000)), (-589395600, .summer (-14400)),
    (-576093600, .winter (-18000)), (-557946000, .summer (-14400)), (-544644000, .winter (-18000)),
    (-526496400, .summer (-14400)), (-513194400, .winter (-18000)), (-495046800, .summer (-14400)),
    (-481744800, .winter (-18000)), (-463597200, .summer (-14400)), (-447271200, .winter (-18000)),
    (-431542800, .summer (-14400)), (-415821600, .winter (-18000)), (-400093200, .summer (-14400)),
    (-384372000, .winter (-18000)), (-368643600, .summer (-14400)), (-352922400, .winter (-18000)),
    (-337194000, .summer (-14400)), (-321472800, .winter (-18000)), (-305744400, .summer (-14400)),
    (-289418400, .winter (-18000)), (-273690000, .summer (-14400)), (-257968800, .winter (-18000)),
    (-242240400, .summer (-14400)), (-226519200, .winter (-18000)), (-210790800, .summer (-14400)),
    (-195069600, .winter (-18000)), (-179341200, .summer (-14400)), (-163620000, .winter (-18000)),
    (-147891600, .summer (-14400)), (-131565600, .winter (-18000)), (-116442000, .summer (-14400)),
    (-100116000, .winter (-18000)), (-84387600, .summer (-14400)), (-68666400, .winter (-18000)),
    (-52938000, .summer (-14400)), (-37216800, .winter (-18000)), (-21488400, .summer (-14400)),
    (-5767200, .winter (-18000)), (9961200, .summer (-14400)), (25682400, .winter (-18000)),
    (41410800, .summer (-14400)), (57736800, .winter (-18000)), (73465200, .summer (-14400)),
    (89186400, .winter (-18000)), (104914800, .summer (-14400)), (120636000, .winter (-18000)),
    (126687600, .summer (-14400)), (152085600, .winter (-18000)), (162370800, .summer (-14400)),
    (183535200, .winter (-18000)), (199263600, .summer (-14400)), (215589600, .winter (-18000)),
    (230713200, .summer (-14400)), (247039200, .winter (-18000)), (262767600, .summer (-14400)),
    (278488800, .winter (-18000)), (294217200, .summer (-14400)), (309938400, .winter (-18000)),
    (325666800, .summer (-14400)), (341388000, .winter (-18000)), (357116400, .summer (-14400)),
    (372837600, .winter (-18000)), (388566000, .summer (-14400)), (404892000, .winter (-18000)),
    (420015600, .summer (-14400)), (436341600, .winter (-18000)), (452070000, .summer (-14400)),
    (467791200, .winter (-18000)), (483519600, .summer (-14400)), (499240800, .winter (-18000)),
    (514969200, .summer (-14400)), (530690400, .winter (-18000)), (544604400, .summer (-14400)),
    (562140000, .winter (-18000)), (576054000, .summer (-14400)), (594194400, .winter (-18000)),
    (607503600, .summer (-14400)), (625644000, .winter (-18000)), (638953200, .summer (-14400)),
    (657093600, .winter (-18000)), (671007600, .summer (-14400)), (688543200, .winter (-18000)),
    (702457200, .summer (-14400)), (719992800, .winter (-18000)), (733906800, .summer (-14400)),
    (752047200, .winter (-18000)), (765356400, .summer (-14400)), (783496800, .winter (-18000)),
    (796806000, .summer (-14400)), (814946400, .winter (-18000)), (828860400, .summer (-14400)),
    (846396000, .winter (-18000)), (860310000, .summer (-14400)), (877845600, .winter (-18000)),
    (891759600, .summer (-14400)), (909295200, .winter (-18000)), (923209200, .summer (-14400)),
    (941349600, .winter (-18000)), (954658800, .summer (-14400)), (972799200, .winter (-18000)),
    (986108400, .summer (-14400)), (1004248800, .winter (-18000)), (1018162800, .summer (-14400)),
    (1035698400, .winter (-18000)), (1049612400, .summer (-14400)), (1067148000, .winter (-18000)),
    (1081062000, .summer (-14400)), (1099202400, .winter (-18000)), (1112511600, .summer (-14400)),
    (1130652000, .winter (-18000)), (1143961200, .summer (-14400)), (1162101600, .winter (-18000)),
    (1173596400, .summer (-14400)), (1194156000, .winter (-18000))]
    (some ⟨.winter (-18000), .summer (-14400), ⟨3, 2, 0, 7200⟩, ⟨11, 1, 0, 7200⟩⟩) 2008

/-- The zone America/Nuuk. -/
def nuuk : Zone :=
  .ofTable "America/Nuuk" (some ⟨"LMT", -12416⟩) (.winter (-12416)) [
    (-1686083584, .winter (-10800)), (323845200, .summer (-7200)), (338950800, .winter (-10800)),
    (354675600, .summer (-7200)), (370400400, .winter (-10800)), (386125200, .summer (-7200)),
    (401850000, .winter (-10800)), (417574800, .summer (-7200)), (433299600, .winter (-10800)),
    (449024400, .summer (-7200)), (465354000, .winter (-10800)), (481078800, .summer (-7200)),
    (496803600, .winter (-10800)), (512528400, .summer (-7200)), (528253200, .winter (-10800)),
    (543978000, .summer (-7200)), (559702800, .winter (-10800)), (575427600, .summer (-7200)),
    (591152400, .winter (-10800)), (606877200, .summer (-7200)), (622602000, .winter (-10800)),
    (638326800, .summer (-7200)), (654656400, .winter (-10800)), (670381200, .summer (-7200)),
    (686106000, .winter (-10800)), (701830800, .summer (-7200)), (717555600, .winter (-10800)),
    (733280400, .summer (-7200)), (749005200, .winter (-10800)), (764730000, .summer (-7200)),
    (780454800, .winter (-10800)), (796179600, .summer (-7200)), (811904400, .winter (-10800)),
    (828234000, .summer (-7200)), (846378000, .winter (-10800)), (859683600, .summer (-7200)),
    (877827600, .winter (-10800)), (891133200, .summer (-7200)), (909277200, .winter (-10800)),
    (922582800, .summer (-7200)), (941331600, .winter (-10800)), (954032400, .summer (-7200)),
    (972781200, .winter (-10800)), (985482000, .summer (-7200)), (1004230800, .winter (-10800)),
    (1017536400, .summer (-7200)), (1035680400, .winter (-10800)), (1048986000, .summer (-7200)),
    (1067130000, .winter (-10800)), (1080435600, .summer (-7200)), (1099184400, .winter (-10800)),
    (1111885200, .summer (-7200)), (1130634000, .winter (-10800)), (1143334800, .summer (-7200)),
    (1162083600, .winter (-10800)), (1174784400, .summer (-7200)), (1193533200, .winter (-10800)),
    (1206838800, .summer (-7200)), (1224982800, .winter (-10800)), (1238288400, .summer (-7200)),
    (1256432400, .winter (-10800)), (1269738000, .summer (-7200)), (1288486800, .winter (-10800)),
    (1301187600, .summer (-7200)), (1319936400, .winter (-10800)), (1332637200, .summer (-7200)),
    (1351386000, .winter (-10800)), (1364691600, .summer (-7200)), (1382835600, .winter (-10800)),
    (1396141200, .summer (-7200)), (1414285200, .winter (-10800)), (1427590800, .summer (-7200)),
    (1445734800, .winter (-10800)), (1459040400, .summer (-7200)), (1477789200, .winter (-10800)),
    (1490490000, .summer (-7200)), (1509238800, .winter (-10800)), (1521939600, .summer (-7200)),
    (1540688400, .winter (-10800)), (1553994000, .summer (-7200)), (1572138000, .winter (-10800)),
    (1585443600, .summer (-7200)), (1603587600, .winter (-10800)), (1616893200, .summer (-7200)),
    (1635642000, .winter (-10800)), (1648342800, .summer (-7200)), (1667091600, .winter (-10800)),
    (1679792400, .winter (-7200)), (1698541200, .winter (-7200))]
    (some ⟨.winter (-7200), .summer (-3600), ⟨3, 5, 0, -3600⟩, ⟨10, 5, 0, 0⟩⟩) 2024

/-- The zone America/Santiago. -/
def santiago : Zone :=
  .ofTable "America/Santiago" (some ⟨"LMT", -16965⟩) (.winter (-16965)) [
    (-2524504635, .winter (-16965)), (-1892661435, .winter (-18000)),
    (-1688410800, .winter (-16965)), (-1619205435, .winter (-14400)),
    (-1593806400, .winter (-16965)), (-1335986235, .summer (-14400)),
    (-1317585600, .winter (-18000)), (-1304362800, .summer (-14400)),
    (-1286049600, .winter (-18000)), (-1272826800, .summer (-14400)),
    (-1254513600, .winter (-18000)), (-1241290800, .summer (-14400)),
    (-1222977600, .winter (-18000)), (-1209754800, .summer (-14400)),
    (-1191355200, .winter (-18000)), (-1178132400, .winter (-14400)),
    (-870552000, .winter (-18000)), (-865278000, .winter (-14400)), (-740520000, .summer (-10800)),
    (-736635600, .summer (-14400)), (-718056000, .winter (-18000)), (-713649600, .winter (-14400)),
    (-36619200, .summer (-10800)), (-23922000, .winter (-14400)), (-3355200, .summer (-10800)),
    (7527600, .winter (-14400)), (24465600, .summer (-10800)), (37767600, .winter (-14400)),
    (55915200, .summer (-10800)), (69217200, .winter (-14400)), (87969600, .summer (-10800)),
    (100666800, .winter (-14400)), (118209600, .summer (-10800)), (132116400, .winter (-14400)),
    (150868800, .summer (-10800)), (163566000, .winter (-14400)), (182318400, .summer (-10800)),
    (195620400, .winter (-14400)), (213768000, .summer (-10800)), (227070000, .winter (-14400)),
    (245217600, .summer (-10800)), (258519600, .winter (-14400)), (277272000, .summer (-10800)),
    (289969200, .winter (-14400)), (308721600, .summer (-10800)), (321418800, .winter (-14400)),
    (340171200, .summer (-10800)), (353473200, .winter (-14400)), (371620800, .summer (-10800)),
    (384922800, .winter (-14400)), (403070400, .summer (-10800)), (416372400, .winter (-14400)),
    (434520000, .summer (-10800)), (447822000, .winter (-14400)), (466574400, .summer (-10800)),
    (479271600, .winter (-14400)), (498024000, .summer (-10800)), (510721200, .winter (-14400)),
    (529473600, .summer (-10800)), (545194800, .winter (-14400)), (560923200, .summer (-10800)),
    (574225200, .winter (-14400)), (592372800, .summer (-10800)), (605674800, .winter (-14400)),
    (624427200, .summer (-10800)), (637124400, .winter (-14400)), (653457600, .summer (-10800)),
    (668574000, .winter (-14400)), (687326400, .summer (-10800)), (700628400, .winter (-14400)),
    (718776000, .summer (-10800)), (732078000, .winter (-14400)), (750225600, .summer (-10800)),
    (763527600, .winter (-14400)), (781675200, .summer (-10800)), (794977200, .winter (-14400)),
    (813729600, .summer (-10800)), (826426800, .winter (-14400)), (845179200, .summer (-10800)),
    (859690800, .winter (-14400)), (876628800, .summer (-10800)), (889930800, .winter (-14400)),
    (906868800, .summer (-10800)), (923194800, .winter (-14400)), (939528000, .summer (-10800)),
    (952830000, .winter (-14400)), (971582400, .summer (-10800)), (984279600, .winter (-14400)),
    (1003032000, .summer (-10800)), (1015729200, .winter (-14400)), (1034481600, .summer (-10800)),
    (1047178800, .winter (-14400)), (1065931200, .summer (-10800)), (1079233200, .winter (-14400)),
    (1097380800, .summer (-10800)), (1110682800, .winter (-14400)), (1128830400, .summer (-10800)),
    (1142132400, .winter (-14400)), (1160884800, .summer (-10800)), (1173582000, .winter (-14400)),
    (1192334400, .summer (-10800)), (1206846000, .winter (-14400)), (1223784000, .summer (-10800)),
    (1237086000, .winter (-14400)), (1255233600, .summer (-10800)), (1270350000, .winter (-14400)),
    (1286683200, .summer (-10800)), (1304823600, .winter (-14400)), (1313899200, .summer (-10800)),
    (1335668400, .winter (-14400)), (1346558400, .summer (-10800)), (1367118000, .winter (-14400)),
    (1378612800, .summer (-10800)), (1398567600, .winter (-14400)), (1410062400, .summer (-10800)),
    (1463281200, .winter (-14400)), (1471147200, .summer (-10800)), (1494730800, .winter (-14400)),
    (1502596800, .summer (-10800)), (1526180400, .winter (-14400)), (1534046400, .summer (-10800)),
    (1554606000, .winter (-14400)), (1567915200, .summer (-10800)), (1586055600, .winter (-14400)),
    (1599364800, .summer (-10800)), (1617505200, .winter (-14400)), (1630814400, .summer (-10800)),
    (1648954800, .winter (-14400)), (1662868800, .summer (-10800)), (1680404400, .winter (-14400)),
    (1693713600, .summer (-10800))]
    (some ⟨.winter (-14400), .summer (-10800), ⟨9, 1, 6, 86400⟩, ⟨4, 1, 6, 86400⟩⟩) 2024

/-- The zone America/Sao_Paulo. -/
def saoPaulo : Zone :=
  .ofTable "America/Sao_Paulo" (some ⟨"LMT", -11188⟩) (.winter (-11188)) [
    (-1767214412, .winter (-10800)), (-1206957600, .summer (-7200)),
    (-1191362400, .winter (-10800)), (-1175374800, .summer (-7200)),
    (-1159826400, .winter (-10800)), (-633819600, .summer (-7200)), (-622069200, .winter (-10800)),
    (-602283600, .summer (-7200)), (-591832800, .winter (-10800)), (-570747600, .summer (-7200)),
    (-560210400, .winter (-10800)), (-539125200, .summer (-7200)), (-531352800, .winter (-10800)),
    (-195426000, .summer (-7200)), (-184197600, .winter (-10800)), (-155163600, .summer (-7200)),
    (-150069600, .winter (-10800)), (-128898000, .summer (-7200)), (-121125600, .winter (-10800)),
    (-99954000, .summer (-7200)), (-89589600, .winter (-10800)), (-68418000, .summer (-7200)),
    (-57967200, .winter (-10800)), (499748400, .summer (-7200)), (511236000, .winter (-10800)),
    (530593200, .summer (-7200)), (540266400, .winter (-10800)), (562129200, .summer (-7200)),
    (571197600, .winter (-10800)), (592974000, .summer (-7200)), (602042400, .winter (-10800)),
    (624423600, .summer (-7200)), (634701600, .winter (-10800)), (656478000, .summer (-7200)),
    (666756000, .winter (-10800)), (687927600, .summer (-7200)), (697600800, .winter (-10800)),
    (719982000, .summer (-7200)), (728445600, .winter (-10800)), (750826800, .summer (-7200)),
    (761709600, .winter (-10800)), (782276400, .summer (-7200)), (793159200, .winter (-10800)),
    (813726000, .summer (-7200)), (824004000, .winter (-10800)), (844570800, .summer (-7200)),
    (856058400, .winter (-10800)), (876106800, .summer (-7200)), (888717600, .winter (-10800)),
    (908074800, .summer (-7200)), (919562400, .winter (-10800)), (938919600, .summer (-7200)),
    (951616800, .winter (-10800)), (970974000, .summer (-7200)), (982461600, .winter (-10800)),
    (1003028400, .summer (-7200)), (1013911200, .winter (-10800)), (1036292400, .summer (-7200)),
    (1045360800, .winter (-10800)), (1066532400, .summer (-7200)), (1076810400, .winter (-10800)),
    (1099364400, .summer (-7200)), (1108864800, .winter (-10800)), (1129431600, .summer (-7200)),
    (1140314400, .winter (-10800)), (1162695600, .summer (-7200)), (1172368800, .winter (-10800)),
    (1192330800, .summer (-7200)), (1203213600, .winter (-10800)), (1224385200, .summer (-7200)),
    (1234663200, .winter (-10800)), (1255834800, .summer (-7200)), (1266717600, .winter (-10800)),
    (1287284400, .summer (-7200)), (1298167200, .winter (-10800)), (1318734000, .summer (-7200)),
    (1330221600, .winter (-10800)), (1350788400, .summer (-7200)), (1361066400, .winter (-10800)),
    (1382238000, .summer (-7200)), (1392516000, .winter (-10800)), (1413687600, .summer (-7200)),
    (1424570400, .winter (-10800)), (1445137200, .summer (-7200)), (1456020000, .winter (-10800)),
    (1476586800, .summer (-7200)), (1487469600, .winter (-10800)), (1508036400, .summer (-7200)),
    (1518919200, .winter (-10800)), (1541300400, .summer (-7200)), (1550368800, .winter (-10800))]
    none 1

/-- The zone America/St_Johns. -/
def stJohns : Zone :=
  .ofTable "America/St_Johns" (some ⟨"LMT", -12652⟩) (.winter (-12652)) [
    (-2713897748, .winter (-12652)), (-1664130548, .summer (-9052)),
    (-1650137348, .winter (-12652)), (-1632076148, .summer (-9052)),
    (-1615145348, .winter (-12652)), (-1598650148, .summer (-9052)),
    (-1590100148, .winter (-12652)), (-1567286948, .summer (-9052)),
    (-1551565748, .winter (-12652)), (-1535837348, .summer (-9052)),
    (-1520116148, .winter (-12652)), (-1503782948, .summer (-9052)),
    (-1488666548, .winter (-12652)), (-1472333348, .summer (-9052)),
    (-1457216948, .winter (-12652)), (-1440883748, .summer (-9052)),
    (-1425767348, .winter (-12652)), (-1409434148, .summer (-9052)),
    (-1394317748, .winter (-12652)), (-1377984548, .summer (-9052)),
    (-1362263348, .winter (-12652)), (-1346534948, .summer (-9052)),
    (-1330813748, .winter (-12652)), (-1314480548, .summer (-9052)),
    (-1299364148, .winter (-12652)), (-1283030948, .summer (-9052)),
    (-1267914548, .winter (-12652)), (-1251581348, .summer (-9052)),
    (-1236464948, .winter (-12652)), (-1220131748, .summer (-9052)),
    (-1205015348, .winter (-12652)), (-1188682148, .summer (-9052)),
    (-1172960948, .winter (-12652)), (-1156627748, .summer (-9052)),
    (-1141511348, .winter (-12652)), (-1125178148, .summer (-9052)),
    (-1110061748, .winter (-12652)), (-1096921748, .winter (-12600)),
    (-1093728600, .summer (-9000)), (-1078612200, .winter (-12600)), (-1061670600, .summer (-9000)),
    (-1048973400, .winter (-12600)), (-1030221000, .summer (-9000)),
    (-1017523800, .winter (-12600)), (-998771400, .summer (-9000)), (-986074200, .winter (-12600)),
    (-966717000, .summer (-9000)), (-954624600, .winter (-12600)), (-935267400, .summer (-9000)),
    (-922570200, .winter (-12600)), (-903817800, .summer (-9000)), (-891120600, .winter (-12600)),
    (-872368200, .summer (-9000)), (-769395600, .summer (-9000)), (-765401400, .winter (-12600)),
    (-746044200, .summer (-9000)), (-733347000, .winter (-12600)), (-714594600, .summer (-9000)),
    (-701897400, .winter (-12600)), (-683145000, .summer (-9000)), (-670447800, .winter (-12600)),
    (-651695400, .summer (-9000)), (-638998200, .winter (-12600)), (-619641000, .summer (-9000)),
    (-606943800, .winter (-12600)), (-589401000, .summer (-9000)), (-576099000, .winter (-12600)),
    (-557951400, .summer (-9000)), (-544649400, .winter (-12600)), (-526501800, .summer (-9000)),
    (-513199800, .winter (-12600)), (-495052200, .summer (-9000)), (-481750200, .winter (-12600)),
    (-463602600, .summer (-9000)), (-450300600, .winter (-12600)), (-431548200, .summer (-9000)),
    (-418246200, .winter (-12600)), (-400098600, .summer (-9000)), (-386796600, .winter (-12600)),
    (-368649000, .summer (-9000)), (-355347000, .winter (-12600)), (-337199400, .summer (-9000)),
    (-323897400, .winter (-12600)), (-305749800, .summer (-9000)), (-289423800, .winter (-12600)),
    (-273695400, .summer (-9000)), (-257974200, .winter (-12600)), (-242245800, .summer (-9000)),
    (-226524600, .winter (-12600)), (-210796200, .summer (-9000)), (-195075000, .winter (-12600)),
    (-179346600, .summer (-9000)), (-163625400, .winter (-12600)), (-147897000, .summer (-9000)),
    (-131571000, .winter (-12600)), (-116447400, .summer (-9000)), (-100121400, .winter (-12600)),
    (-84393000, .summer (-9000)), (-68671800, .winter (-12600)), (-52943400, .summer (-9000)),
    (-37222200, .winter (-12600)), (-21493800, .summer (-9000)), (-5772600, .winter (-12600)),
    (9955800, .summer (-9000)), (25677000, .winter (-12600)), (41405400, .summer (-9000)),
    (57731400, .winter (-12600)), (73459800, .summer (-9000)), (89181000, .winter (-12600)),
    (104909400, .summer (-9000)), (120630600, .winter (-12600)), (136359000, .summer (-9000)),
    (152080200, .winter (-12600)), (167808600, .summer (-9000)), (183529800, .winter (-12600)),
    (199258200, .summer (-9000)), (215584200, .winter (-12600)), (230707800, .summer (-9000)),
    (247033800, .winter (-12600)), (262762200, .summer (-9000)), (278483400, .winter (-12600)),
    (294211800, .summer (-9000)), (309933000, .winter (-12600)), (325661400, .summer (-9000)),
    (341382600, .winter (-12600)), (357111000, .summer (-9000)), (372832200, .winter (-12600)),
    (388560600, .summer (-9000)), (404886600, .winter (-12600)), (420010200, .summer (-9000)),
    (436336200, .winter (-12600)), (452064600, .summer (-9000)), (467785800, .winter (-12600)),
    (483514200, .summer (-9000)), (499235400, .winter (-12600)), (514963800, .summer (-9000)),
    (530685000, .winter (-12600)), (544591860, .summer (-9000)), (562127460, .winter (-12600)),
    (576041460, .summer (-5400)), (594178260, .winter (-12600)), (607491060, .summer (-9000)),
    (625631460, .winter (-12600)), (638940660, .summer (-9000)), (657081060, .winter (-12600)),
    (670995060, .summer (-9000)), (688530660, .winter (-12600)), (702444660, .summer (-9000)),
    (719980260, .winter (-12600)), (733894260, .summer (-9000)), (752034660, .winter (-12600)),
    (765343860, .summer (-9000)), (783484260, .winter (-12600)), (796793460, .summer (-9000)),
    (814933860, .winter (-12600)), (828847860, .summer (-9000)), (846383460, .winter (-12600)),
    (860297460, .summer (-9000)), (877833060, .winter (-12600)), (891747060, .summer (-9000)),
    (909282660, .winter (-12600)), (923196660, .summer (-9000)), (941337060, .winter (-12600)),
    (954646260, .summer (-9000)), (972786660, .winter (-12600)), (986095860, .summer (-9000)),
    (1004236260, .winter (-12600)), (1018150260, .summer (-9000)), (1035685860, .winter (-12600)),
    (1049599860, .summer (-9000)), (1067135460, .winter (-12600)), (1081049460, .summer (-9000)),
    (1099189860, .winter (-12600)), (1112499060, .summer (-9000)), (1130639460, .winter (-12600)),
    (1143948660, .summer (-9000)), (1162089060, .winter (-12600)), (1173583860, .summer (-9000)),
    (1194143460, .winter (-12600)), (1205033460, .summer (-9000)), (1225593060, .winter (-12600)),
    (1236483060, .summer (-9000)), (1257042660, .winter (-12600)), (1268537460, .summer (-9000)),
    (1289097060, .winter (-12600)), (1299987060, .summer (-9000)), (1320114600, .summer (-9000)),
    (1320553800, .winter (-12600))]
    (some ⟨.winter (-12600), .summer (-9000), ⟨3, 2, 0, 7200⟩, ⟨11, 1, 0, 7200⟩⟩) 2012

/-- The zone America/Indiana/Knox. -/
def knox : Zone :=
  .ofTable "America/Indiana/Knox" (some ⟨"LMT", -20790⟩) (.winter (-20790)) [
    (-2717647200, .winter (-21600)), (-1633276800, .summer (-18000)),
    (-1615136400, .winter (-21600)), (-1601827200, .summer (-18000)),
    (-1583686800, .winter (-21600)), (-880214400, .summer (-18000)), (-769395600, .summer (-18000)),
    (-765392400, .winter (-21600)), (-715795200, .summer (-18000)), (-702493200, .winter (-21600)),
    (-684345600, .summer (-18000)), (-671043600, .winter (-21600)), (-652896000, .summer (-18000)),
    (-639594000, .winter (-21600)), (-620841600, .summer (-18000)), (-608144400, .winter (-21600)),
    (-589392000, .summer (-18000)), (-576090000, .winter (-21600)), (-557942400, .summer (-18000)),
    (-544640400, .winter (-21600)), (-526492800, .summer (-18000)), (-513190800, .winter (-21600)),
    (-495043200, .summer (-18000)), (-481741200, .winter (-21600)), (-463593600, .summer (-18000)),
    (-447267600, .winter (-21600)), (-431539200, .summer (-18000)), (-415818000, .winter (-21600)),
    (-400089600, .summer (-18000)), (-386787600, .winter (-21600)), (-368640000, .summer (-18000)),
    (-355338000, .winter (-21600)), (-337190400, .summer (-18000)), (-321469200, .winter (-21600)),
    (-305740800, .summer (-18000)), (-289414800, .winter (-21600)), (-273686400, .summer (-18000)),
    (-257965200, .winter (-21600)), (-242236800, .winter (-18000)), (-195066000, .winter (-21600)),
    (-84384000, .summer (-18000)), (-68662800, .winter (-21600)), (-52934400, .summer (-18000)),
    (-37213200, .winter (-21600)), (-21484800, .summer (-18000)), (-5763600, .winter (-21600)),
    (9964800, .summer (-18000)), (25686000, .winter (-21600)), (41414400, .summer (-18000)),
    (57740400, .winter (-21600)), (73468800, .summer (-18000)), (89190000, .winter (-21600)),
    (104918400, .summer (-18000)), (120639600, .winter (-21600)), (126691200, .summer (-18000)),
    (152089200, .winter (-21600)), (162374400, .summer (-18000)), (183538800, .winter (-21600)),
    (199267200, .summer (-18000)), (215593200, .winter (-21600)), (230716800, .summer (-18000)),
    (247042800, .winter (-21600)), (262771200, .summer (-18000)), (278492400, .winter (-21600)),
    (294220800, .summer (-18000)), (309942000, .winter (-21600)), (325670400, .summer (-18000)),
    (341391600, .winter (-21600)), (357120000, .summer (-18000)), (372841200, .winter (-21600)),
    (388569600, .summer (-18000)), (404895600, .winter (-21600)), (420019200, .summer (-18000)),
    (436345200, .winter (-21600)), (452073600, .summer (-18000)), (467794800, .winter (-21600)),
    (483523200, .summer (-18000)), (499244400, .winter (-21600)), (514972800, .summer (-18000)),
    (530694000, .winter (-21600)), (544608000, .summer (-18000)), (562143600, .winter (-21600)),
    (576057600, .summer (-18000)), (594198000, .winter (-21600)), (607507200, .summer (-18000)),
    (625647600, .winter (-21600)), (638956800, .summer (-18000)), (657097200, .winter (-21600)),
    (671011200, .summer (-18000)), (688546800, .winter (-18000)), (1143961200, .summer (-18000)),
    (1162105200, .winter (-21600))]
    (some ⟨.winter (-21600), .summer (-18000), ⟨3, 2, 0, 7200⟩, ⟨11, 1, 0, 7200⟩⟩) 2007

/-- The zone America/Argentina/Buenos_Aires. -/
def buenosAires : Zone :=
  .ofTable "America/Argentina/Buenos_Aires" (some ⟨"LMT", -14028⟩) (.winter (-14028)) [
    (-2372097972, .winter (-15408)), (-1567453392, .winter (-14400)),
    (-1233432000, .summer (-10800)), (-1222981200, .winter (-14400)),
    (-1205956800, .summer (-10800)), (-1194037200, .winter (-14400)),
    (-1172865600, .summer (-10800)), (-1162501200, .winter (-14400)),
    (-1141329600, .summer (-10800)), (-1130965200, .winter (-14400)),
    (-1109793600, .summer (-10800)), (-1099429200, .winter (-14400)),
    (-1078257600, .summer (-10800)), (-1067806800, .winter (-14400)),
    (-1046635200, .summer (-10800)), (-1036270800, .winter (-14400)),
    (-1015099200, .summer (-10800)), (-1004734800, .winter (-14400)),
    (-983563200, .summer (-10800)), (-973198800, .winter (-14400)), (-952027200, .summer (-10800)),
    (-941576400, .winter (-14400)), (-931032000, .summer (-10800)), (-900882000, .winter (-14400)),
    (-890337600, .summer (-10800)), (-833749200, .winter (-14400)), (-827265600, .summer (-10800)),
    (-752274000, .winter (-14400)), (-733780800, .summer (-10800)), (-197326800, .winter (-14400)),
    (-190843200, .summer (-10800)), (-184194000, .winter (-14400)), (-164491200, .summer (-10800)),
    (-152658000, .winter (-14400)), (-132955200, .summer (-10800)), (-121122000, .winter (-14400)),
    (-101419200, .summer (-10800)), (-86821200, .winter (-14400)), (-71092800, .summer (-10800)),
    (-54766800, .winter (-14400)), (-39038400, .summer (-10800)), (-23317200, .winter (-14400)),
    (-7588800, .winter (-10800)), (128142000, .summer (-7200)), (136605600, .winter (-10800)),
    (596948400, .summer (-7200)), (605066400, .winter (-10800)), (624423600, .summer (-7200)),
    (636516000, .winter (-10800)), (656478000, .summer (-7200)), (667965600, .winter (-10800)),
    (687927600, .summer (-7200)), (699415200, .winter (-10800)), (719377200, .summer (-7200)),
    (731469600, .winter (-10800)), (938919600, .summer (-10800)), (952052400, .winter (-10800)),
    (1198983600, .summer (-7200)), (1205632800, .winter (-10800)), (1224385200, .summer (-7200)),
    (1237082400, .winter (-10800))]
    none 1

/-- The zone EST. -/
def easternStandard : Zone :=
  .ofTable "EST" (some ⟨"LMT", -19088⟩) (.winter (-19088)) [
    (-2524502512, .winter (-19176)), (-1946918424, .winter (-18000))]
    none 1

/-- The zone MST7MDT. -/
def mountain : Zone :=
  .ofTable "MST7MDT" (some ⟨"LMT", -25196⟩) (.winter (-25196)) [
    (-2717643600, .winter (-25200)), (-1633273200, .summer (-21600)),
    (-1615132800, .winter (-25200)), (-1601823600, .summer (-21600)),
    (-1583683200, .winter (-25200)), (-1570374000, .summer (-21600)),
    (-1551628800, .winter (-25200)), (-1538924400, .summer (-21600)),
    (-1534089600, .winter (-25200)), (-880210800, .summer (-21600)), (-769395600, .summer (-21600)),
    (-765388800, .winter (-25200)), (-147884400, .summer (-21600)), (-131558400, .winter (-25200)),
    (-116434800, .summer (-21600)), (-100108800, .winter (-25200)), (-84380400, .summer (-21600)),
    (-68659200, .winter (-25200)), (-52930800, .summer (-21600)), (-37209600, .winter (-25200)),
    (-21481200, .summer (-21600)), (-5760000, .winter (-25200)), (9968400, .summer (-21600)),
    (25689600, .winter (-25200)), (41418000, .summer (-21600)), (57744000, .winter (-25200)),
    (73472400, .summer (-21600)), (89193600, .winter (-25200)), (104922000, .summer (-21600)),
    (120643200, .winter (-25200)), (126694800, .summer (-21600)), (152092800, .winter (-25200)),
    (162378000, .summer (-21600)), (183542400, .winter (-25200)), (199270800, .summer (-21600)),
    (215596800, .winter (-25200)), (230720400, .summer (-21600)), (247046400, .winter (-25200)),
    (262774800, .summer (-21600)), (278496000, .winter (-25200)), (294224400, .summer (-21600)),
    (309945600, .winter (-25200)), (325674000, .summer (-21600)), (341395200, .winter (-25200)),
    (357123600, .summer (-21600)), (372844800, .winter (-25200)), (388573200, .summer (-21600)),
    (404899200, .winter (-25200)), (420022800, .summer (-21600)), (436348800, .winter (-25200)),
    (452077200, .summer (-21600)), (467798400, .winter (-25200)), (483526800, .summer (-21600)),
    (499248000, .winter (-25200)), (514976400, .summer (-21600)), (530697600, .winter (-25200)),
    (544611600, .summer (-21600)), (562147200, .winter (-25200)), (576061200, .summer (-21600)),
    (594201600, .winter (-25200)), (607510800, .summer (-21600)), (625651200, .winter (-25200)),
    (638960400, .summer (-21600)), (657100800, .winter (-25200)), (671014800, .summer (-21600)),
    (688550400, .winter (-25200)), (702464400, .summer (-21600)), (720000000, .winter (-25200)),
    (733914000, .summer (-21600)), (752054400, .winter (-25200)), (765363600, .summer (-21600)),
    (783504000, .winter (-25200)), (796813200, .summer (-21600)), (814953600, .winter (-25200)),
    (828867600, .summer (-21600)), (846403200, .winter (-25200)), (860317200, .summer (-21600)),
    (877852800, .winter (-25200)), (891766800, .summer (-21600)), (909302400, .winter (-25200)),
    (923216400, .summer (-21600)), (941356800, .winter (-25200)), (954666000, .summer (-21600)),
    (972806400, .winter (-25200)), (986115600, .summer (-21600)), (1004256000, .winter (-25200)),
    (1018170000, .summer (-21600)), (1035705600, .winter (-25200)), (1049619600, .summer (-21600)),
    (1067155200, .winter (-25200)), (1081069200, .summer (-21600)), (1099209600, .winter (-25200)),
    (1112518800, .summer (-21600)), (1130659200, .winter (-25200)), (1143968400, .summer (-21600)),
    (1162108800, .winter (-25200))]
    (some ⟨.winter (-25200), .summer (-21600), ⟨3, 2, 0, 7200⟩, ⟨11, 1, 0, 7200⟩⟩) 2007

end Recurrence.Zone.Table
