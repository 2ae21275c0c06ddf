namespace Bulletin.Domain

/-- Runs of characters of one combining class, from code point 768 on: 256 times the length of the
run, and the class. All others have class zero. -/
def classRuns : List Nat :=
  [5606, 488, 1244, 488, 472, 1500, 714, 1244, 714, 3036, 1281, 1244, 998, 512, 486, 768, 486, 988,
  998, 732, 256, 998, 1244, 486, 488, 732, 486, 489, 746, 489, 746, 489, 3558, 70400, 1510, 67840,
  476, 1254, 476, 998, 478, 476, 1766, 1756, 742, 476, 742, 478, 484, 486, 266, 267, 268, 269, 270,
  271, 272, 273, 274, 531, 276, 277, 278, 256, 279, 256, 280, 281, 256, 486, 476, 256, 274, 18432,
  2278, 286, 287, 288, 12288, 283, 284, 285, 286, 287, 288, 289, 290, 742, 732, 1510, 476, 742,
  476, 4096, 291, 25856, 2022, 512, 1254, 476, 486, 512, 742, 256, 476, 742, 476, 8960, 292, 7680,
  486, 476, 742, 476, 742, 988, 486, 732, 486, 476, 998, 476, 486, 476, 486, 476, 486, 476, 742,
  40960, 2022, 476, 486, 2304, 476, 6144, 1254, 256, 2534, 256, 998, 256, 1510, 11008, 988, 15104,
  742, 988, 1254, 10752, 1510, 1500, 3814, 256, 476, 742, 476, 742, 476, 998, 988, 283, 284, 285,
  998, 476, 742, 732, 1510, 15360, 263, 4096, 265, 768, 486, 476, 742, 26368, 263, 4096, 265,
  12288, 486, 15616, 263, 4096, 265, 28160, 263, 4096, 265, 28160, 263, 4096, 265, 32512, 265,
  28160, 263, 4096, 265, 1792, 340, 347, 25856, 263, 4096, 265, 27904, 521, 4096, 265, 31744, 265,
  27904, 615, 265, 3328, 1131, 27648, 630, 265, 3328, 1146, 19456, 732, 6912, 476, 256, 476, 256,
  472, 14080, 385, 386, 256, 388, 1280, 1154, 512, 386, 256, 742, 265, 256, 742, 15872, 476, 28672,
  263, 256, 521, 20992, 476, 184064, 998, 242688, 521, 7680, 265, 40192, 265, 2560, 486, 51968,
  484, 36608, 478, 486, 476, 56064, 486, 476, 18176, 265, 5120, 2278, 512, 476, 12288, 1510, 1756,
  742, 476, 256, 732, 742, 732, 1510, 476, 4838, 476, 512, 1766, 476, 1254, 490, 18432, 263, 3840,
  265, 9728, 486, 476, 2022, 13824, 521, 14848, 263, 2816, 521, 17152, 263, 38912, 998, 256, 257,
  1500, 742, 1244, 486, 256, 1793, 1024, 476, 1536, 486, 768, 742, 50688, 742, 476, 2022, 476, 742,
  490, 470, 476, 458, 9702, 488, 740, 476, 474, 486, 489, 476, 486, 476, 184320, 742, 513, 1254,
  769, 742, 1024, 486, 768, 513, 486, 476, 486, 513, 1244, 486, 785920, 998, 36096, 265, 24576,
  8422, 141824, 474, 484, 488, 478, 736, 26880, 520, 7721984, 486, 1024, 2790, 8192, 742, 20480,
  742, 70656, 265, 9472, 265, 38656, 265, 6912, 4838, 14592, 988, 9472, 265, 24320, 263, 3072, 265,
  61184, 486, 256, 742, 476, 512, 742, 1280, 742, 256, 486, 13312, 265, 62976, 265, 5189632, 282,
  196864, 2022, 2012, 742, 249088, 476, 57856, 476, 38144, 1510, 430592, 476, 256, 486, 10240, 486,
  257, 476, 1024, 265, 42240, 486, 476, 146688, 1254, 16640, 1510, 81152, 742, 19712, 732, 256,
  988, 17920, 732, 998, 476, 486, 1244, 12544, 486, 476, 486, 476, 49152, 265, 10496, 265, 3584,
  265, 14592, 265, 263, 17664, 998, 12288, 521, 15872, 263, 19456, 265, 2304, 263, 27136, 265, 263,
  45568, 263, 265, 20480, 519, 4096, 265, 6144, 2022, 768, 1510, 22784, 777, 28928, 265, 768, 263,
  5888, 486, 25344, 265, 263, 64256, 265, 263, 32256, 265, 30208, 265, 263, 29440, 265, 68864, 265,
  263, 66048, 521, 1024, 263, 39936, 265, 21248, 265, 4608, 265, 20736, 265, 107776, 265, 66048,
  263, 256, 521, 20736, 265, 108800, 521, 4320256, 265, 638976, 1281, 15104, 2022, 309504, 518,
  5024768, 257, 1361408, 728, 769, 768, 482, 1496, 2048, 2268, 512, 1510, 732, 7680, 1254, 37888,
  998, 899840, 2022, 256, 4582, 512, 2022, 256, 742, 256, 1510, 25600, 486, 40960, 2022, 96000,
  486, 15616, 1254, 130048, 744, 476, 486, 65024, 486, 476, 62208, 486, 512, 486, 1792, 742, 1280,
  486, 121344, 2012, 27904, 1766, 263]

def classIn : List Nat → Nat → Nat
  | [], _ => 0
  | run :: runs, n => if n < run / 256 then run % 256 else classIn runs (n - run / 256)

def combiningClass (c : Char) : Nat :=
  if c.toNat < 768 then 0 else classIn classRuns (c.toNat - 768)

def isVirama (c : Char) : Bool := combiningClass c = 9

/-- For each character that can be the second of a pair, those before it with which it is written as
one character. -/
def pairs : List (Nat × List Nat) :=
  [(768, [97, 101, 105, 110, 111, 117, 119, 121, 226, 234, 244, 252, 259, 275, 333, 417, 432, 945,
  949, 951, 953, 959, 965, 969, 970, 971, 1077, 1080, 7936, 7937, 7952, 7953, 7968, 7969, 7984,
  7985, 8000, 8001, 8016, 8017, 8032, 8033]), (769, [97, 99, 101, 103, 105, 107, 108, 109, 110,
  111, 112, 114, 115, 117, 119, 121, 122, 226, 229, 230, 231, 234, 239, 244, 245, 248, 252, 259,
  275, 333, 361, 417, 432, 945, 949, 951, 953, 959, 965, 969, 970, 971, 1075, 1082, 7936, 7937,
  7952, 7953, 7968, 7969, 7984, 7985, 8000, 8001, 8016, 8017, 8032, 8033]), (770, [97, 99, 101,
  103, 104, 105, 106, 111, 115, 117, 119, 121, 122, 7841, 7865, 7885]), (771, [97, 101, 105, 110,
  111, 117, 118, 121, 226, 234, 244, 259, 417, 432]), (772, [97, 101, 103, 105, 111, 117, 121, 228,
  230, 245, 246, 252, 491, 551, 559, 945, 953, 965, 1080, 1091, 7735, 7771]), (774, [97, 101, 103,
  105, 111, 117, 553, 945, 953, 965, 1072, 1077, 1078, 1080, 1091, 7841]), (775, [97, 98, 99, 100,
  101, 102, 103, 104, 109, 110, 111, 112, 114, 115, 116, 119, 120, 121, 122, 347, 353, 7779, 67026,
  67034]), (776, [97, 101, 104, 105, 111, 116, 117, 119, 120, 121, 245, 363, 953, 965, 1072, 1077,
  1078, 1079, 1080, 1086, 1091, 1095, 1099, 1101, 1110, 1241, 1257]), (777, [97, 101, 105, 111,
  117, 121, 226, 234, 244, 259, 417, 432]), (778, [97, 117, 119, 121]), (779, [111, 117, 1091]),
  (780, [97, 99, 100, 101, 103, 104, 105, 106, 107, 108, 110, 111, 114, 115, 116, 117, 122, 252,
  658]), (783, [97, 101, 105, 111, 114, 117, 1141]), (785, [97, 101, 105, 111, 114, 117]), (787,
  [945, 949, 951, 953, 959, 961, 965, 969]), (788, [945, 949, 951, 953, 959, 961, 965, 969]), (795,
  [111, 117]), (803, [97, 98, 100, 101, 104, 105, 107, 108, 109, 110, 111, 114, 115, 116, 117, 118,
  119, 121, 122, 417, 432]), (804, [117]), (805, [97]), (806, [115, 116]), (807, [99, 100, 101,
  103, 104, 107, 108, 110, 114, 115, 116]), (808, [97, 101, 105, 111, 117]), (813, [100, 101, 108,
  110, 116, 117]), (814, [104]), (816, [101, 105, 117]), (817, [98, 100, 104, 107, 108, 110, 114,
  116, 122]), (824, [60, 61, 62, 8592, 8594, 8596, 8656, 8658, 8660, 8707, 8712, 8715, 8739, 8741,
  8764, 8771, 8773, 8776, 8781, 8801, 8804, 8805, 8818, 8819, 8822, 8823, 8826, 8827, 8828, 8829,
  8834, 8835, 8838, 8839, 8849, 8850, 8866, 8872, 8873, 8875, 8882, 8883, 8884, 8885]), (834, [945,
  951, 953, 965, 969, 970, 971, 7936, 7937, 7968, 7969, 7984, 7985, 8016, 8017, 8032, 8033]),
  (1619, [1575]), (1620, [1575, 1608, 1610, 1729, 1746, 1749]), (1621, [1575]), (2364, [2344, 2352,
  2355]), (2494, [2503]), (2519, [2503]), (2878, [2887]), (2902, [2887]), (2903, [2887]), (3006,
  [3014, 3015]), (3031, [2962, 3014]), (3158, [3142]), (3266, [3270]), (3285, [3263, 3270, 3274]),
  (3286, [3270]), (3390, [3398, 3399]), (3415, [3398]), (3530, [3545, 3548]), (3535, [3545]),
  (3551, [3545]), (4142, [4133]), (6965, [6917, 6919, 6921, 6923, 6925, 6929, 6970, 6972, 6974,
  6975, 6978]), (12441, [12358, 12363, 12365, 12367, 12369, 12371, 12373, 12375, 12377, 12379,
  12381, 12383, 12385, 12388, 12390, 12392, 12399, 12402, 12405, 12408, 12411, 12445, 12454, 12459,
  12461, 12463, 12465, 12467, 12469, 12471, 12473, 12475, 12477, 12479, 12481, 12484, 12486, 12488,
  12495, 12498, 12501, 12504, 12507, 12527, 12528, 12529, 12530, 12541]), (12442, [12399, 12402,
  12405, 12408, 12411, 12495, 12498, 12501, 12504, 12507]), (69818, [69785, 69787, 69797]), (69927,
  [69937, 69938]), (70462, [70471]), (70487, [70471]), (70584, [70594]), (70587, [70532]), (70594,
  [70539, 70594]), (70601, [70530, 70544, 70594]), (70832, [70841]), (70842, [70841]), (70845,
  [70841]), (71087, [71096, 71097]), (71984, [71989]), (90398, [90398]), (90399, [90398, 90401,
  90402, 90409]), (90400, [90398, 90401]), (90409, [90398]), (93543, [93539, 93543, 93545])]

def composes (c d : Char) : Bool :=
  let (m, n) := (c.toNat, d.toNat)
  ((pairs.lookup n).getD []).contains m
    || (0x1100 ≤ m && m ≤ 0x1112 && 0x1161 ≤ n && n ≤ 0x1175)
    || (0xAC00 ≤ m && m ≤ 0xD7A3 && (m - 0xAC00) % 28 == 0 && 0x11A8 ≤ n && n ≤ 0x11C2)

def isComposedAfter (base : Option Char) (last : Nat) : List Char → Bool
  | [] => true
  | c :: cs =>
    let cls := combiningClass c
    let ordered := cls = 0 || last ≤ cls
    let apart := !(last = 0 || last < cls) || !base.any (composes · c)
    ordered && apart && isComposedAfter (if cls = 0 then some c else base) cls cs

def isComposed (cs : List Char) : Bool := isComposedAfter none 0 cs

end Bulletin.Domain
