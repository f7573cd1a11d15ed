import Recurrence.Zone.Basic

namespace Recurrence.Zone.Table

/-- The zone Africa/Cairo. -/
def cairo : Zone :=
  .ofTable "Africa/Cairo" (some ⟨"LMT", 7509⟩) (.winter 7509) [
    (-2185409109, .winter 7200), (-929844000, .summer 10800), (-923108400, .winter 7200),
    (-906170400, .summer 10800), (-892868400, .winter 7200), (-875844000, .summer 10800),
    (-857790000, .winter 7200), (-844308000, .summer 10800), (-825822000, .winter 7200),
    (-812685600, .summer 10800), (-794199600, .winter 7200), (-779853600, .summer 10800),
    (-762663600, .winter 7200), (-399088800, .summer 10800), (-386650800, .winter 7200),
    (-368330400, .summer 10800), (-355114800, .winter 7200), (-336790800, .summer 10800),
    (-323654400, .winter 7200), (-305168400, .summer 10800), (-292032000, .winter 7200),
    (-273632400, .summer 10800), (-260496000, .winter 7200), (-242096400, .summer 10800),
    (-228960000, .winter 7200), (-210560400, .summer 10800), (-197424000, .winter 7200),
    (-178938000, .summer 10800), (-165801600, .winter 7200), (-147402000, .summer 10800),
    (-134265600, .winter 7200), (-115866000, .summer 10800), (-102643200, .winter 7200),
    (-84330000, .summer 10800), (-71107200, .winter 7200), (-52707600, .summer 10800),
    (-39484800, .winter 7200), (-21171600, .summer 10800), (-7948800, .winter 7200),
    (10364400, .summer 10800), (23587200, .winter 7200), (41900400, .summer 10800),
    (55123200, .winter 7200), (73522800, .summer 10800), (86745600, .winter 7200),
    (105058800, .summer 10800), (118281600, .winter 7200), (136594800, .summer 10800),
    (149817600, .winter 7200), (168130800, .summer 10800), (181353600, .winter 7200),
    (199753200, .summer 10800), (212976000, .winter 7200), (231289200, .summer 10800),
    (244512000, .winter 7200), (262825200, .summer 10800), (276048000, .winter 7200),
    (294361200, .summer 10800), (307584000, .winter 7200), (325983600, .summer 10800),
    (339206400, .winter 7200), (357519600, .summer 10800), (370742400, .winter 7200),
    (396399600, .summer 10800), (402278400, .winter 7200), (426812400, .summer 10800),
    (433814400, .winter 7200), (452214000, .summer 10800), (465436800, .winter 7200),
    (483750000, .summer 10800), (496972800, .winter 7200), (515286000, .summer 10800),
    (528508800, .winter 7200), (546822000, .summer 10800), (560044800, .winter 7200),
    (578444400, .summer 10800), (591667200, .winter 7200), (610412400, .summer 10800),
    (623203200, .winter 7200), (641516400, .summer 10800), (654739200, .winter 7200),
    (673052400, .summer 10800), (686275200, .winter 7200), (704674800, .summer 10800),
    (717897600, .winter 7200), (736210800, .summer 10800), (749433600, .winter 7200),
    (767746800, .summer 10800), (780969600, .winter 7200), (799020000, .summer 10800),
    (812322000, .winter 7200), (830469600, .summer 10800), (843771600, .winter 7200),
    (861919200, .summer 10800), (875221200, .winter 7200), (893368800, .summer 10800),
    (906670800, .winter 7200), (925423200, .summer 10800), (938725200, .winter 7200),
    (956872800, .summer 10800), (970174800, .winter 7200), (988322400, .summer 10800),
    (1001624400, .winter 7200), (1019772000, .summer 10800), (1033074000, .winter 7200),
    (1051221600, .summer 10800), (1064523600, .winter 7200), (1083276000, .summer 10800),
    (1096578000, .winter 7200), (1114725600, .summer 10800), (1128027600, .winter 7200),
    (1146175200, .summer 10800), (1158872400, .winter 7200), (1177624800, .summer 10800),
    (1189112400, .winter 7200), (1209074400, .summer 10800), (1219957200, .winter 7200),
    (1240524000, .summer 10800), (1250802000, .winter 7200), (1272578400, .summer 10800),
    (1281474000, .winter 7200), (1284069600, .summer 10800), (1285880400, .winter 7200),
    (1400191200, .summer 10800), (1403816400, .winter 7200), (1406844000, .summer 10800),
    (1411678800, .winter 7200), (1682632800, .summer 10800), (1698354000, .winter 7200)]
    (some ⟨.winter 7200, .summer 10800, ⟨4, 5, 5, 0⟩, ⟨10, 5, 4, 86400⟩⟩) 2024

/-- The zone Africa/Casablanca. -/
def casablanca : Zone :=
  .ofTable "Africa/Casablanca" (some ⟨"LMT", -1820⟩) (.winter (-1820)) [
    (-1773012580, .winter 0), (-956361600, .summer 3600), (-950490000, .winter 0),
    (-942019200, .summer 3600), (-761187600, .winter 0), (-617241600, .summer 3600),
    (-605149200, .winter 0), (-81432000, .summer 3600), (-71110800, .winter 0),
    (141264000, .summer 3600), (147222000, .winter 0), (199756800, .summer 3600),
    (207702000, .winter 0), (231292800, .summer 3600), (244249200, .winter 0),
    (265507200, .summer 3600), (271033200, .winter 0), (448243200, .winter 3600),
    (504918000, .winter 0), (1212278400, .summer 3600), (1220223600, .winter 0),
    (1243814400, .summer 3600), (1250809200, .winter 0), (1272758400, .summer 3600),
    (1281222000, .winter 0), (1301788800, .summer 3600), (1312066800, .winter 0),
    (1335664800, .summer 3600), (1342749600, .winter 0), (1345428000, .summer 3600),
    (1348970400, .winter 0), (1367114400, .summer 3600), (1373162400, .winter 0),
    (1376100000, .summer 3600), (1382839200, .winter 0), (1396144800, .summer 3600),
    (1403920800, .winter 0), (1406944800, .summer 3600), (1414288800, .winter 0),
    (1427594400, .summer 3600), (1434247200, .winter 0), (1437271200, .summer 3600),
    (1445738400, .winter 0), (1459044000, .summer 3600), (1465092000, .winter 0),
    (1468116000, .summer 3600), (1477792800, .winter 0), (1490493600, .summer 3600),
    (1495332000, .winter 0), (1498960800, .summer 3600), (1509242400, .winter 0),
    (1521943200, .summer 3600), (1526176800, .winter 0), (1529200800, .summer 3600),
    (1540692000, .winter 3600), (1557021600, .summer 0), (1560045600, .winter 3600),
    (1587261600, .summer 0), (1590890400, .winter 3600), (1618106400, .summer 0),
    (1621130400, .winter 3600), (1648346400, .summer 0), (1651975200, .winter 3600),
    (1679191200, .summer 0), (1682215200, .winter 3600), (1710036000, .summer 0),
    (1713060000, .winter 3600), (1740276000, .summer 0), (1743904800, .winter 3600),
    (1771120800, .summer 0), (1774144800, .winter 3600), (1801965600, .summer 0),
    (1804989600, .winter 3600), (1832205600, .summer 0), (1835834400, .winter 3600),
    (1863050400, .summer 0), (1866074400, .winter 3600), (1893290400, .summer 0),
    (1896919200, .winter 3600), (1924135200, .summer 0), (1927159200, .winter 3600),
    (1954980000, .summer 0), (1958004000, .winter 3600), (1985220000, .summer 0),
    (1988848800, .winter 3600), (2016064800, .summer 0), (2019088800, .winter 3600),
    (2046304800, .summer 0), (2049933600, .winter 3600), (2077149600, .summer 0),
    (2080778400, .winter 3600), (2107994400, .summer 0), (2111018400, .winter 3600),
    (2138234400, .summer 0), (2141863200, .winter 3600), (2169079200, .summer 0),
    (2172103200, .winter 3600), (2199924000, .summer 0), (2202948000, .winter 3600),
    (2230164000, .summer 0), (2233792800, .winter 3600), (2261008800, .summer 0),
    (2264032800, .winter 3600), (2291248800, .summer 0), (2294877600, .winter 3600),
    (2322093600, .summer 0), (2325722400, .winter 3600), (2352938400, .summer 0),
    (2355962400, .winter 3600), (2383178400, .summer 0), (2386807200, .winter 3600),
    (2414023200, .summer 0), (2417047200, .winter 3600), (2444868000, .summer 0),
    (2447892000, .winter 3600), (2475108000, .summer 0), (2478736800, .winter 3600),
    (2505952800, .summer 0), (2508976800, .winter 3600), (2536192800, .summer 0),
    (2539821600, .winter 3600), (2567037600, .summer 0), (2570666400, .winter 3600),
    (2597882400, .summer 0), (2600906400, .winter 3600), (2628122400, .summer 0),
    (2631751200, .winter 3600), (2658967200, .summer 0), (2661991200, .winter 3600),
    (2689812000, .summer 0), (2692836000, .winter 3600), (2720052000, .summer 0),
    (2723680800, .winter 3600), (2750896800, .summer 0), (2753920800, .winter 3600),
    (2781136800, .summer 0), (2784765600, .winter 3600), (2811981600, .summer 0),
    (2815610400, .winter 3600), (2842826400, .summer 0), (2845850400, .winter 3600),
    (2873066400, .summer 0), (2876695200, .winter 3600), (2903911200, .summer 0),
    (2906935200, .winter 3600), (2934756000, .summer 0), (2937780000, .winter 3600),
    (2964996000, .summer 0), (2968624800, .winter 3600), (2995840800, .summer 0),
    (2998864800, .winter 3600), (3026080800, .summer 0), (3029709600, .winter 3600),
    (3056925600, .summer 0), (3060554400, .winter 3600), (3087770400, .summer 0),
    (3090794400, .winter 3600), (3118010400, .summer 0), (3121639200, .winter 3600),
    (3148855200, .summer 0), (3151879200, .winter 3600), (3179700000, .summer 0),
    (3182724000, .winter 3600), (3209940000, .summer 0), (3213568800, .winter 3600),
    (3240784800, .summer 0), (3243808800, .winter 3600), (3271024800, .summer 0),
    (3274653600, .winter 3600), (3301869600, .summer 0), (3305498400, .winter 3600),
    (3332714400, .summer 0), (3335738400, .winter 3600), (3362954400, .summer 0),
    (3366583200, .winter 3600), (3393799200, .summer 0), (3396823200, .winter 3600),
    (3424644000, .summer 0), (3427668000, .winter 3600), (3454884000, .summer 0),
    (3458512800, .winter 3600), (3485728800, .summer 0), (3488752800, .winter 3600),
    (3515968800, .summer 0), (3519597600, .winter 3600), (3546813600, .summer 0),
    (3549837600, .winter 3600), (3577658400, .summer 0), (3580682400, .winter 3600),
    (3607898400, .summer 0), (3611527200, .winter 3600), (3638743200, .summer 0),
    (3641767200, .winter 3600), (3669588000, .summer 0), (3672612000, .winter 3600),
    (3699828000, .summer 0), (3703456800, .winter 3600)]
    none 1

/-- The zone Africa/Monrovia. -/
def monrovia : Zone :=
  .ofTable "Africa/Monrovia" (some ⟨"LMT", -2588⟩) (.winter (-2588)) [
    (-2776979812, .winter (-2588)), (-1604359012, .winter (-2670)), (63593070, .winter 0)]
    none 1

end Recurrence.Zone.Table
