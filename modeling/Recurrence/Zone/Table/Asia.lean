import Recurrence.Zone.Basic

namespace Recurrence.Zone.Table

/-- The zone Asia/Kathmandu. -/
def kathmandu : Zone :=
  .ofTable "Asia/Kathmandu" (some ⟨"LMT", 20476⟩) (.winter 20476) [
    (-1577943676, .winter 19800), (504901800, .winter 20700)]
    none 1

/-- The zone Asia/Kolkata. -/
def kolkata : Zone :=
  .ofTable "Asia/Kolkata" (some ⟨"LMT", 21208⟩) (.winter 21208) [
    (-3645237208, .winter 21200), (-3155694800, .winter 19270), (-2019705670, .winter 19800),
    (-891581400, .summer 23400), (-872058600, .winter 19800), (-862637400, .summer 23400),
    (-764145000, .winter 19800)]
    none 1

/-- The zone Asia/Tehran. -/
def tehran : Zone :=
  .ofTable "Asia/Tehran" (some ⟨"LMT", 12344⟩) (.winter 12344) [
    (-1704165944, .winter 12344), (-1090466744, .winter 12600), (227820600, .summer 16200),
    (246223800, .winter 14400), (259617600, .summer 18000), (271108800, .winter 14400),
    (279576000, .winter 12600), (296598600, .summer 16200), (306531000, .winter 12600),
    (322432200, .summer 16200), (338499000, .winter 12600), (673216200, .summer 16200),
    (685481400, .winter 12600), (701209800, .summer 16200), (717103800, .winter 12600),
    (732745800, .summer 16200), (748639800, .winter 12600), (764281800, .summer 16200),
    (780175800, .winter 12600), (795817800, .summer 16200), (811711800, .winter 12600),
    (827353800, .summer 16200), (843247800, .winter 12600), (858976200, .summer 16200),
    (874870200, .winter 12600), (890512200, .summer 16200), (906406200, .winter 12600),
    (922048200, .summer 16200), (937942200, .winter 12600), (953584200, .summer 16200),
    (969478200, .winter 12600), (985206600, .summer 16200), (1001100600, .winter 12600),
    (1016742600, .summer 16200), (1032636600, .winter 12600), (1048278600, .summer 16200),
    (1064172600, .winter 12600), (1079814600, .summer 16200), (1095708600, .winter 12600),
    (1111437000, .summer 16200), (1127331000, .winter 12600), (1206045000, .summer 16200),
    (1221939000, .winter 12600), (1237667400, .summer 16200), (1253561400, .winter 12600),
    (1269203400, .summer 16200), (1285097400, .winter 12600), (1300739400, .summer 16200),
    (1316633400, .winter 12600), (1332275400, .summer 16200), (1348169400, .winter 12600),
    (1363897800, .summer 16200), (1379791800, .winter 12600), (1395433800, .summer 16200),
    (1411327800, .winter 12600), (1426969800, .summer 16200), (1442863800, .winter 12600),
    (1458505800, .summer 16200), (1474399800, .winter 12600), (1490128200, .summer 16200),
    (1506022200, .winter 12600), (1521664200, .summer 16200), (1537558200, .winter 12600),
    (1553200200, .summer 16200), (1569094200, .winter 12600), (1584736200, .summer 16200),
    (1600630200, .winter 12600), (1616358600, .summer 16200), (1632252600, .winter 12600),
    (1647894600, .summer 16200), (1663788600, .winter 12600)]
    none 1

/-- The zone Asia/Tokyo. -/
def tokyo : Zone :=
  .ofTable "Asia/Tokyo" (some ⟨"LMT", 33539⟩) (.winter 33539) [
    (-2587712400, .winter 32400), (-683802000, .summer 36000), (-672310800, .winter 32400),
    (-654771600, .summer 36000), (-640861200, .winter 32400), (-620298000, .summer 36000),
    (-609411600, .winter 32400), (-588848400, .summer 36000), (-577962000, .winter 32400)]
    none 1

/-- The zone Hongkong. -/
def hongkong : Zone :=
  .ofTable "Hongkong" (some ⟨"LMT", 27402⟩) (.winter 27402) [
    (-2056690800, .winter 28800), (-900910800, .summer 32400), (-891579600, .summer 30600),
    (-884248200, .winter 32400), (-761209200, .winter 28800), (-747907200, .summer 32400),
    (-728541000, .winter 28800), (-717049800, .summer 32400), (-697091400, .winter 28800),
    (-683785800, .summer 32400), (-668061000, .winter 28800), (-654755400, .summer 32400),
    (-636611400, .winter 28800), (-623305800, .summer 32400), (-605161800, .winter 28800),
    (-591856200, .summer 32400), (-573712200, .winter 28800), (-559801800, .summer 32400),
    (-541657800, .winter 28800), (-528352200, .summer 32400), (-510211800, .winter 28800),
    (-498112200, .summer 32400), (-478762200, .winter 28800), (-466662600, .summer 32400),
    (-446707800, .winter 28800), (-435213000, .summer 32400), (-415258200, .winter 28800),
    (-403158600, .summer 32400), (-383808600, .winter 28800), (-371709000, .summer 32400),
    (-352359000, .winter 28800), (-340259400, .summer 32400), (-320909400, .winter 28800),
    (-308809800, .summer 32400), (-288855000, .winter 28800), (-277360200, .summer 32400),
    (-257405400, .winter 28800), (-245910600, .summer 32400), (-225955800, .winter 28800),
    (-213856200, .summer 32400), (-194506200, .winter 28800), (-182406600, .summer 32400),
    (-163056600, .winter 28800), (-148537800, .summer 32400), (-132816600, .winter 28800),
    (-117088200, .summer 32400), (-101367000, .winter 28800), (-85638600, .summer 32400),
    (-69312600, .winter 28800), (-53584200, .summer 32400), (-37863000, .winter 28800),
    (-22134600, .summer 32400), (-6413400, .winter 28800), (9315000, .summer 32400),
    (25036200, .winter 28800), (40764600, .summer 32400), (56485800, .winter 28800),
    (72214200, .summer 32400), (88540200, .winter 28800), (104268600, .summer 32400),
    (119989800, .winter 28800), (126041400, .summer 32400), (151439400, .winter 28800),
    (167167800, .summer 32400), (182889000, .winter 28800), (198617400, .summer 32400),
    (214338600, .winter 28800), (295385400, .summer 32400), (309292200, .winter 28800)]
    none 1

end Recurrence.Zone.Table
