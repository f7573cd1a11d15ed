import Recurrence.Zone.Basic

namespace Recurrence.Zone.Table

/-- The zone Antarctica/Troll. -/
def troll : Zone :=
  .ofTable "Antarctica/Troll" (some ⟨"-00", 0⟩) (.winter 0) [
    (1108166400, .winter 0), (1111885200, .summer 7200), (1130634000, .winter 0),
    (1143334800, .summer 7200), (1162083600, .winter 0)]
    (some ⟨.winter 0, .summer 7200, ⟨3, 5, 0, 3600⟩, ⟨10, 5, 0, 10800⟩⟩) 2007

/-- The zone Australia/Lord_Howe. -/
def lordHowe : Zone :=
  .ofTable "Australia/Lord_Howe" (some ⟨"LMT", 38180⟩) (.winter 38180) [
    (-2364114980, .winter 36000), (352216800, .winter 37800), (372785400, .summer 41400),
    (384273000, .winter 37800), (404839800, .summer 41400), (415722600, .winter 37800),
    (436289400, .summer 41400), (447172200, .winter 37800), (467739000, .summer 41400),
    (478621800, .winter 37800), (499188600, .summer 39600), (511282800, .winter 37800),
    (530033400, .summer 39600), (542732400, .winter 37800), (562087800, .summer 39600),
    (574786800, .winter 37800), (594142200, .summer 39600), (606236400, .winter 37800),
    (625591800, .summer 39600), (636476400, .winter 37800), (657041400, .summer 39600),
    (667926000, .winter 37800), (688491000, .summer 39600), (699375600, .winter 37800),
    (719940600, .summer 39600), (731430000, .winter 37800), (751995000, .summer 39600),
    (762879600, .winter 37800), (783444600, .summer 39600), (794329200, .winter 37800),
    (814894200, .summer 39600), (828198000, .winter 37800), (846343800, .summer 39600),
    (859647600, .winter 37800), (877793400, .summer 39600), (891097200, .winter 37800),
    (909243000, .summer 39600), (922546800, .winter 37800), (941297400, .summer 39600),
    (953996400, .winter 37800), (967303800, .summer 39600), (985446000, .winter 37800),
    (1004196600, .summer 39600), (1017500400, .winter 37800), (1035646200, .summer 39600),
    (1048950000, .winter 37800), (1067095800, .summer 39600), (1080399600, .winter 37800),
    (1099150200, .summer 39600), (1111849200, .winter 37800), (1130599800, .summer 39600),
    (1143903600, .winter 37800), (1162049400, .summer 39600), (1174748400, .winter 37800),
    (1193499000, .summer 39600), (1207407600, .winter 37800), (1223134200, .summer 39600)]
    (some ⟨.winter 37800, .summer 39600, ⟨10, 1, 0, 7200⟩, ⟨4, 1, 0, 7200⟩⟩) 2009

/-- The zone Australia/Sydney. -/
def sydney : Zone :=
  .ofTable "Australia/Sydney" (some ⟨"LMT", 36292⟩) (.winter 36292) [
    (-2364113092, .winter 36000), (-1672560000, .summer 39600), (-1665388800, .winter 36000),
    (-883641600, .summer 39600), (-876124800, .winter 36000), (-860400000, .summer 39600),
    (-844675200, .winter 36000), (-828345600, .summer 39600), (-813225600, .winter 36000),
    (57686400, .summer 39600), (67968000, .winter 36000), (89136000, .summer 39600),
    (100022400, .winter 36000), (120585600, .summer 39600), (131472000, .winter 36000),
    (152035200, .summer 39600), (162921600, .winter 36000), (183484800, .summer 39600),
    (194976000, .winter 36000), (215539200, .summer 39600), (226425600, .winter 36000),
    (246988800, .summer 39600), (257875200, .winter 36000), (278438400, .summer 39600),
    (289324800, .winter 36000), (309888000, .summer 39600), (320774400, .winter 36000),
    (341337600, .summer 39600), (352224000, .winter 36000), (372787200, .summer 39600),
    (386697600, .winter 36000), (404841600, .summer 39600), (415728000, .winter 36000),
    (436291200, .summer 39600), (447177600, .winter 36000), (467740800, .summer 39600),
    (478627200, .winter 36000), (499190400, .summer 39600), (511286400, .winter 36000),
    (530035200, .summer 39600), (542736000, .winter 36000), (562089600, .summer 39600),
    (574790400, .winter 36000), (594144000, .summer 39600), (606240000, .winter 36000),
    (625593600, .summer 39600), (636480000, .winter 36000), (657043200, .summer 39600),
    (667929600, .winter 36000), (688492800, .summer 39600), (699379200, .winter 36000),
    (719942400, .summer 39600), (731433600, .winter 36000), (751996800, .summer 39600),
    (762883200, .winter 36000), (783446400, .summer 39600), (794332800, .winter 36000),
    (814896000, .summer 39600), (828201600, .winter 36000), (846345600, .summer 39600),
    (859651200, .winter 36000), (877795200, .summer 39600), (891100800, .winter 36000),
    (909244800, .summer 39600), (922550400, .winter 36000), (941299200, .summer 39600),
    (954000000, .winter 36000), (967305600, .summer 39600), (985449600, .winter 36000),
    (1004198400, .summer 39600), (1017504000, .winter 36000), (1035648000, .summer 39600),
    (1048953600, .winter 36000), (1067097600, .summer 39600), (1080403200, .winter 36000),
    (1099152000, .summer 39600), (1111852800, .winter 36000), (1130601600, .summer 39600),
    (1143907200, .winter 36000), (1162051200, .summer 39600), (1174752000, .winter 36000),
    (1193500800, .summer 39600), (1207411200, .winter 36000), (1223136000, .summer 39600)]
    (some ⟨.winter 36000, .summer 39600, ⟨10, 1, 0, 7200⟩, ⟨4, 1, 0, 10800⟩⟩) 2009

/-- The zone Pacific/Apia. -/
def apia : Zone :=
  .ofTable "Pacific/Apia" (some ⟨"LMT", 45184⟩) (.winter 45184) [
    (-2445424384, .winter (-41216)), (-1861878784, .winter (-41400)),
    (-631110600, .winter (-39600)), (1285498800, .summer (-36000)), (1301752800, .winter (-39600)),
    (1316872800, .summer (-36000)), (1325239200, .summer 50400), (1333202400, .winter 46800),
    (1348927200, .summer 50400), (1365256800, .winter 46800), (1380376800, .summer 50400),
    (1396706400, .winter 46800), (1411826400, .summer 50400), (1428156000, .winter 46800),
    (1443276000, .summer 50400), (1459605600, .winter 46800), (1474725600, .summer 50400),
    (1491055200, .winter 46800), (1506175200, .summer 50400), (1522504800, .winter 46800),
    (1538229600, .summer 50400), (1554559200, .winter 46800), (1569679200, .summer 50400),
    (1586008800, .winter 46800), (1601128800, .summer 50400), (1617458400, .winter 46800)]
    none 1

/-- The zone Pacific/Chatham. -/
def chatham : Zone :=
  .ofTable "Pacific/Chatham" (some ⟨"LMT", 44028⟩) (.winter 44028) [
    (-3192437628, .winter 44100), (-757426500, .winter 45900), (152632800, .summer 49500),
    (162309600, .winter 45900), (183477600, .summer 49500), (194968800, .winter 45900),
    (215532000, .summer 49500), (226418400, .winter 45900), (246981600, .summer 49500),
    (257868000, .winter 45900), (278431200, .summer 49500), (289317600, .winter 45900),
    (309880800, .summer 49500), (320767200, .winter 45900), (341330400, .summer 49500),
    (352216800, .winter 45900), (372780000, .summer 49500), (384271200, .winter 45900),
    (404834400, .summer 49500), (415720800, .winter 45900), (436284000, .summer 49500),
    (447170400, .winter 45900), (467733600, .summer 49500), (478620000, .winter 45900),
    (499183200, .summer 49500), (510069600, .winter 45900), (530632800, .summer 49500),
    (541519200, .winter 45900), (562082400, .summer 49500), (573573600, .winter 45900),
    (594136800, .summer 49500), (605023200, .winter 45900), (623772000, .summer 49500),
    (637682400, .winter 45900), (655221600, .summer 49500), (669132000, .winter 45900),
    (686671200, .summer 49500), (700581600, .winter 45900), (718120800, .summer 49500),
    (732636000, .winter 45900), (749570400, .summer 49500), (764085600, .winter 45900),
    (781020000, .summer 49500), (795535200, .winter 45900), (812469600, .summer 49500),
    (826984800, .winter 45900), (844524000, .summer 49500), (858434400, .winter 45900),
    (875973600, .summer 49500), (889884000, .winter 45900), (907423200, .summer 49500),
    (921938400, .winter 45900), (938872800, .summer 49500), (953388000, .winter 45900),
    (970322400, .summer 49500), (984837600, .winter 45900), (1002376800, .summer 49500),
    (1016287200, .winter 45900), (1033826400, .summer 49500), (1047736800, .winter 45900),
    (1065276000, .summer 49500), (1079791200, .winter 45900), (1096725600, .summer 49500),
    (1111240800, .winter 45900), (1128175200, .summer 49500), (1142690400, .winter 45900),
    (1159624800, .summer 49500), (1174140000, .winter 45900), (1191074400, .summer 49500)]
    (some ⟨.winter 45900, .summer 49500, ⟨9, 5, 0, 9900⟩, ⟨4, 1, 0, 13500⟩⟩) 2008

/-- The zone Pacific/Kiritimati. -/
def kiritimati : Zone :=
  .ofTable "Pacific/Kiritimati" (some ⟨"LMT", -37760⟩) (.winter (-37760)) [
    (-2177415040, .winter (-38400)), (307622400, .winter (-36000)), (788868000, .winter 50400)]
    none 1

end Recurrence.Zone.Table
