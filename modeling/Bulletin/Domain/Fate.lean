namespace Bulletin.Domain

inductive Kind where
  | leftToRight | rightToLeft | arabicNumber | europeanNumber | neutral | mark | spacingMark
  deriving DecidableEq, Repr

inductive Fate where
  | refused
  | removed
  | spelled
  | kept (kind : Kind) (asItself : Bool)
  deriving DecidableEq, Repr

/-- Runs of characters of one fate, from code point 128 on: sixteen times the length of the run, and
the code of the fate. All that follows the last run is refused. -/
def fateRuns : List Nat :=
  [528, 119, 16, 23, 18, 39, 17, 23, 16, 39, 34, 16, 26, 39, 16, 34, 23, 50, 23, 378, 23, 122, 387,
  23, 131, 26, 19, 26, 19, 26, 19, 26, 19, 26, 19, 26, 19, 26, 19, 26, 19, 26, 19, 26, 19, 26, 19,
  26, 19, 26, 19, 26, 19, 26, 19, 26, 19, 26, 19, 26, 19, 26, 19, 26, 19, 26, 19, 26, 19, 26, 19,
  26, 19, 26, 19, 34, 26, 19, 26, 35, 26, 19, 26, 19, 26, 19, 34, 26, 19, 26, 19, 26, 19, 26, 19,
  42, 19, 26, 19, 26, 19, 26, 19, 26, 19, 26, 19, 26, 19, 26, 19, 26, 19, 26, 19, 26, 19, 26, 19,
  26, 19, 26, 19, 26, 19, 26, 19, 26, 19, 26, 19, 26, 19, 26, 19, 26, 19, 26, 19, 26, 19, 42, 19,
  26, 19, 26, 19, 18, 19, 42, 19, 26, 19, 42, 19, 58, 35, 74, 19, 42, 19, 58, 51, 42, 19, 42, 19,
  26, 19, 26, 19, 42, 19, 26, 35, 26, 19, 42, 19, 58, 19, 26, 19, 42, 51, 26, 115, 58, 98, 26, 19,
  26, 19, 26, 19, 26, 19, 26, 19, 26, 19, 26, 19, 26, 35, 26, 19, 26, 19, 26, 19, 26, 19, 26, 19,
  26, 19, 26, 19, 26, 19, 26, 35, 50, 26, 19, 58, 19, 26, 19, 26, 19, 26, 19, 26, 19, 26, 19, 26,
  19, 26, 19, 26, 19, 26, 19, 26, 19, 26, 19, 26, 19, 26, 19, 26, 19, 26, 19, 26, 19, 26, 19, 26,
  19, 26, 19, 26, 19, 26, 19, 26, 19, 26, 19, 26, 19, 26, 19, 26, 19, 26, 19, 26, 19, 26, 115, 42,
  19, 42, 35, 26, 19, 74, 19, 26, 19, 26, 19, 26, 19, 26, 1555, 18, 26, 34, 58, 34, 39, 115, 231,
  35, 103, 96, 39, 26, 50, 26, 151, 19, 279, 1032, 47, 24, 47, 26, 152, 17, 520, 26, 19, 26, 19,
  30, 23, 26, 19, 48, 51, 18, 26, 96, 26, 30, 58, 16, 26, 16, 42, 19, 282, 16, 154, 563, 138, 19,
  26, 19, 26, 19, 26, 19, 26, 19, 26, 19, 26, 19, 26, 19, 26, 19, 26, 19, 26, 19, 26, 19, 26, 19,
  58, 19, 42, 23, 26, 19, 42, 35, 826, 771, 26, 19, 26, 19, 26, 19, 26, 19, 26, 19, 26, 19, 26, 19,
  26, 19, 26, 19, 26, 19, 26, 19, 26, 19, 26, 19, 26, 19, 26, 19, 26, 19, 26, 35, 120, 26, 19, 26,
  19, 26, 19, 26, 19, 26, 19, 26, 19, 26, 19, 26, 19, 26, 19, 26, 19, 26, 19, 26, 19, 26, 19, 26,
  19, 26, 19, 26, 19, 26, 19, 26, 19, 26, 19, 26, 19, 26, 19, 26, 19, 26, 19, 26, 19, 26, 19, 26,
  19, 26, 19, 42, 19, 26, 19, 26, 19, 26, 19, 26, 19, 26, 19, 26, 35, 26, 19, 26, 19, 26, 19, 26,
  19, 26, 19, 26, 19, 26, 19, 26, 19, 26, 19, 26, 19, 26, 19, 26, 19, 26, 19, 26, 19, 26, 19, 26,
  19, 26, 19, 26, 19, 26, 19, 26, 19, 26, 19, 26, 19, 26, 19, 26, 19, 26, 19, 26, 19, 26, 19, 26,
  19, 26, 19, 26, 19, 26, 19, 26, 19, 26, 19, 26, 19, 26, 19, 26, 19, 26, 19, 26, 19, 26, 19, 26,
  19, 26, 19, 26, 19, 26, 19, 26, 19, 26, 19, 26, 19, 26, 19, 26, 19, 16, 618, 32, 739, 26, 35, 23,
  32, 55, 16, 728, 20, 24, 20, 40, 20, 40, 20, 24, 128, 436, 64, 100, 272, 39, 20, 39, 20, 23, 20,
  39, 184, 20, 16, 740, 344, 165, 23, 37, 52, 24, 68, 75, 1492, 120, 16, 23, 104, 36, 40, 23, 72,
  36, 166, 324, 32, 20, 24, 484, 440, 32, 1428, 184, 20, 224, 692, 152, 36, 71, 20, 32, 24, 388,
  72, 20, 152, 20, 56, 20, 88, 32, 244, 16, 404, 56, 32, 20, 16, 180, 80, 516, 112, 152, 676, 392,
  16, 520, 25, 867, 24, 25, 24, 19, 57, 136, 73, 24, 41, 19, 120, 138, 35, 40, 467, 24, 41, 16,
  131, 32, 35, 32, 355, 16, 115, 16, 19, 48, 67, 32, 24, 19, 57, 72, 32, 41, 32, 41, 24, 19, 128,
  25, 64, 42, 16, 26, 35, 40, 32, 195, 39, 115, 23, 35, 24, 32, 40, 25, 16, 99, 64, 35, 32, 355,
  16, 115, 16, 19, 26, 16, 19, 26, 16, 35, 32, 24, 16, 57, 40, 64, 40, 32, 56, 48, 24, 112, 58, 19,
  16, 26, 112, 163, 40, 51, 24, 19, 160, 40, 25, 16, 147, 16, 51, 16, 355, 16, 115, 16, 35, 16, 83,
  32, 24, 19, 57, 88, 16, 40, 25, 16, 41, 24, 32, 19, 240, 35, 40, 32, 179, 23, 112, 19, 104, 16,
  24, 41, 16, 131, 32, 35, 32, 355, 16, 115, 16, 35, 16, 83, 32, 24, 19, 25, 24, 25, 72, 32, 41,
  32, 41, 24, 112, 40, 25, 64, 42, 16, 51, 40, 32, 291, 160, 24, 19, 16, 99, 48, 51, 16, 67, 48,
  35, 16, 19, 16, 35, 48, 35, 48, 51, 48, 195, 64, 41, 24, 41, 48, 57, 16, 57, 24, 32, 19, 96, 25,
  224, 211, 135, 80, 24, 57, 24, 131, 16, 51, 16, 371, 16, 259, 32, 24, 19, 56, 73, 16, 56, 16, 72,
  112, 40, 16, 51, 16, 35, 32, 35, 40, 32, 163, 112, 19, 119, 35, 24, 41, 147, 16, 51, 16, 371, 16,
  163, 16, 83, 32, 24, 19, 121, 16, 57, 16, 41, 40, 112, 41, 80, 51, 16, 35, 40, 32, 163, 16, 35,
  25, 192, 40, 41, 147, 16, 51, 16, 659, 40, 19, 57, 72, 16, 57, 16, 57, 24, 35, 64, 51, 25, 163,
  40, 32, 419, 16, 24, 41, 16, 291, 48, 387, 16, 147, 16, 19, 32, 115, 48, 24, 64, 57, 56, 16, 24,
  16, 137, 96, 163, 32, 41, 19, 192, 771, 24, 19, 18, 120, 64, 23, 115, 136, 211, 592, 35, 16, 19,
  16, 83, 16, 387, 16, 19, 16, 163, 24, 19, 18, 152, 19, 32, 83, 16, 19, 16, 120, 16, 163, 32, 42,
  35, 512, 195, 26, 179, 40, 435, 24, 19, 24, 19, 24, 71, 41, 51, 26, 67, 16, 67, 26, 67, 26, 67,
  26, 67, 26, 195, 26, 51, 64, 40, 31, 24, 95, 88, 25, 24, 31, 56, 19, 40, 83, 104, 31, 72, 16, 72,
  31, 72, 31, 72, 31, 72, 31, 200, 31, 56, 16, 131, 24, 99, 16, 211, 592, 691, 41, 72, 25, 104, 25,
  40, 41, 40, 371, 41, 40, 67, 56, 19, 57, 35, 121, 51, 72, 211, 24, 41, 40, 105, 24, 19, 25, 163,
  57, 24, 35, 618, 16, 26, 80, 26, 32, 707, 26, 1571, 33, 3715, 16, 67, 32, 115, 16, 19, 16, 67,
  32, 659, 16, 67, 32, 531, 16, 67, 32, 115, 16, 19, 16, 67, 32, 243, 16, 915, 16, 67, 32, 1075,
  32, 56, 467, 48, 259, 167, 96, 1379, 32, 106, 32, 23, 10227, 16, 419, 39, 48, 1427, 112, 291, 56,
  25, 144, 307, 40, 25, 35, 144, 291, 40, 192, 211, 16, 51, 16, 40, 192, 835, 33, 25, 120, 137, 24,
  41, 184, 115, 23, 19, 24, 32, 163, 96, 167, 96, 183, 81, 163, 96, 1427, 112, 83, 40, 547, 24, 19,
  80, 1123, 160, 499, 16, 56, 73, 40, 57, 64, 41, 24, 105, 56, 64, 23, 48, 39, 643, 32, 83, 176,
  707, 64, 419, 96, 179, 48, 551, 371, 40, 41, 24, 32, 883, 25, 24, 25, 120, 16, 24, 25, 24, 41,
  136, 105, 168, 32, 24, 163, 96, 163, 96, 227, 32, 744, 32, 200, 320, 72, 25, 755, 24, 25, 88, 25,
  24, 89, 24, 41, 131, 16, 467, 152, 195, 40, 25, 483, 25, 72, 41, 40, 25, 56, 899, 24, 25, 40, 57,
  24, 25, 56, 41, 128, 643, 137, 136, 41, 40, 48, 243, 48, 819, 170, 19, 80, 698, 32, 58, 131, 128,
  56, 19, 216, 25, 120, 67, 24, 99, 24, 35, 25, 40, 19, 80, 707, 18, 26, 18, 19, 34, 26, 130, 19,
  18, 26, 98, 58, 50, 58, 18, 19, 34, 26, 18, 58, 50, 42, 18, 106, 66, 90, 211, 26, 547, 26, 18,
  58, 18, 426, 18, 74, 1032, 26, 19, 26, 19, 26, 19, 26, 19, 26, 19, 26, 19, 26, 19, 26, 19, 26,
  19, 26, 19, 26, 19, 26, 19, 26, 19, 26, 19, 26, 19, 26, 19, 26, 19, 26, 19, 26, 19, 26, 19, 26,
  19, 26, 19, 26, 19, 26, 19, 26, 19, 26, 19, 26, 19, 26, 19, 26, 19, 26, 19, 26, 19, 26, 19, 26,
  19, 26, 19, 26, 19, 26, 19, 26, 19, 26, 19, 26, 19, 26, 19, 26, 19, 26, 19, 26, 19, 26, 19, 26,
  19, 26, 19, 26, 19, 26, 19, 26, 19, 26, 19, 26, 19, 26, 19, 26, 19, 26, 19, 26, 19, 26, 19, 26,
  19, 26, 19, 26, 19, 26, 19, 26, 19, 26, 19, 26, 19, 26, 19, 26, 19, 26, 19, 26, 19, 26, 19, 26,
  19, 26, 19, 26, 19, 26, 19, 26, 19, 26, 19, 26, 83, 42, 35, 26, 19, 26, 19, 26, 19, 26, 19, 26,
  19, 26, 19, 26, 19, 26, 19, 26, 19, 26, 19, 26, 19, 26, 19, 26, 19, 26, 19, 26, 19, 26, 19, 26,
  19, 26, 19, 26, 19, 26, 19, 26, 19, 26, 19, 26, 19, 26, 19, 26, 19, 26, 19, 26, 19, 26, 19, 26,
  19, 26, 19, 26, 19, 26, 19, 26, 19, 26, 19, 26, 19, 26, 19, 26, 19, 26, 19, 26, 19, 26, 19, 26,
  19, 26, 19, 26, 19, 26, 19, 26, 19, 26, 19, 26, 19, 26, 19, 26, 147, 138, 99, 32, 106, 32, 131,
  138, 131, 138, 99, 32, 106, 32, 131, 16, 26, 16, 26, 16, 26, 16, 26, 131, 138, 19, 26, 19, 26,
  19, 26, 19, 26, 19, 26, 19, 26, 19, 26, 32, 778, 35, 58, 16, 19, 106, 16, 26, 48, 58, 16, 19,
  106, 48, 51, 26, 32, 35, 74, 64, 51, 26, 67, 90, 32, 18, 32, 58, 16, 19, 106, 224, 17, 39, 32,
  23, 30, 87, 16, 199, 48, 23, 128, 55, 46, 23, 46, 71, 18, 23, 16, 135, 48, 215, 30, 119, 16, 81,
  80, 97, 34, 32, 114, 30, 242, 30, 50, 16, 66, 26, 130, 48, 135, 18, 407, 224, 536, 272, 34, 23,
  32, 26, 23, 98, 26, 66, 23, 34, 39, 82, 39, 50, 23, 18, 23, 26, 23, 18, 23, 18, 26, 34, 23, 50,
  26, 34, 75, 18, 23, 18, 74, 30, 71, 82, 71, 35, 770, 51, 26, 83, 18, 39, 64, 2503, 46, 23, 46,
  3975, 46, 183, 1107, 423, 19, 2375, 352, 183, 336, 642, 320, 1266, 7191, 19, 5431, 4099, 4295,
  30, 1655, 16, 34, 1623, 30, 2423, 32, 2215, 778, 771, 26, 19, 58, 35, 26, 19, 26, 19, 26, 19, 74,
  19, 26, 35, 26, 99, 34, 58, 19, 26, 19, 26, 19, 26, 19, 26, 19, 26, 19, 26, 19, 26, 19, 26, 19,
  26, 19, 26, 19, 26, 19, 26, 19, 26, 19, 26, 19, 26, 19, 26, 19, 26, 19, 26, 19, 26, 19, 26, 19,
  26, 19, 26, 19, 26, 19, 26, 19, 26, 19, 26, 19, 26, 19, 26, 19, 26, 19, 26, 19, 26, 19, 26, 19,
  26, 19, 26, 19, 26, 19, 26, 19, 26, 19, 26, 19, 26, 19, 26, 19, 26, 19, 26, 19, 26, 19, 26, 19,
  26, 19, 26, 19, 26, 19, 26, 19, 26, 35, 103, 26, 19, 26, 19, 56, 26, 19, 80, 119, 611, 16, 19,
  80, 19, 32, 899, 112, 26, 19, 224, 24, 371, 144, 115, 16, 115, 16, 115, 16, 115, 16, 115, 16,
  115, 16, 115, 16, 115, 16, 520, 1511, 544, 423, 16, 71, 26, 1335, 26, 192, 3434, 688, 23, 18, 39,
  51, 407, 147, 72, 41, 23, 83, 30, 23, 58, 35, 55, 16, 1379, 32, 40, 32, 35, 26, 23, 1443, 23, 51,
  26, 80, 691, 16, 826, 17, 682, 16, 35, 234, 515, 615, 160, 259, 498, 16, 578, 74, 131, 258, 506,
  19, 794, 498, 2186, 562, 90, 34, 26, 146, 42, 114, 26, 82, 26, 354, 26, 50, 26, 82, 26, 50, 42,
  16, 66, 16, 258, 16, 626, 105475, 1031, 354515, 48, 887, 144, 5075, 55, 451, 320, 26, 19, 26, 19,
  26, 19, 26, 19, 26, 19, 26, 19, 26, 19, 26, 19, 26, 19, 26, 19, 26, 19, 26, 19, 26, 19, 26, 19,
  26, 19, 26, 19, 26, 19, 26, 19, 26, 19, 26, 19, 26, 19, 26, 19, 26, 35, 72, 23, 168, 39, 26, 19,
  26, 19, 26, 19, 26, 19, 26, 19, 26, 19, 26, 19, 26, 19, 26, 19, 26, 19, 26, 19, 26, 19, 26, 19,
  26, 19, 42, 40, 1283, 40, 99, 128, 551, 26, 19, 26, 19, 26, 19, 26, 19, 26, 19, 26, 19, 26, 51,
  26, 19, 26, 19, 26, 19, 26, 19, 26, 19, 26, 19, 26, 19, 26, 19, 26, 19, 26, 19, 26, 19, 26, 19,
  26, 19, 26, 19, 26, 19, 26, 19, 26, 19, 26, 19, 26, 19, 26, 19, 26, 19, 26, 19, 26, 19, 26, 19,
  26, 19, 26, 19, 26, 19, 26, 19, 26, 19, 26, 19, 26, 19, 26, 131, 26, 19, 26, 19, 42, 19, 26, 19,
  26, 19, 26, 19, 26, 19, 23, 35, 26, 19, 26, 35, 26, 19, 26, 51, 26, 19, 26, 19, 26, 19, 26, 19,
  26, 19, 26, 19, 26, 19, 26, 19, 26, 19, 26, 19, 90, 19, 90, 19, 26, 19, 26, 19, 26, 19, 26, 19,
  26, 19, 26, 19, 26, 19, 74, 19, 26, 19, 42, 19, 26, 19, 26, 19, 26, 19, 26, 19, 26, 19, 26, 19,
  26, 19, 26, 320, 66, 26, 35, 42, 131, 24, 51, 24, 67, 24, 371, 41, 40, 25, 71, 24, 48, 131, 39,
  96, 835, 71, 128, 41, 803, 265, 40, 128, 195, 96, 296, 211, 24, 611, 136, 403, 184, 41, 176, 483,
  48, 56, 25, 755, 24, 41, 72, 41, 40, 57, 211, 16, 179, 64, 115, 24, 403, 16, 659, 104, 41, 40,
  41, 40, 144, 51, 24, 131, 24, 25, 32, 163, 32, 499, 25, 24, 25, 803, 24, 19, 56, 35, 40, 83, 40,
  19, 24, 19, 384, 259, 25, 40, 41, 83, 25, 24, 160, 99, 32, 99, 32, 99, 144, 115, 16, 115, 16,
  707, 74, 147, 26, 39, 64, 1290, 563, 41, 24, 41, 24, 41, 19, 25, 24, 32, 163, 96, 178755, 192,
  371, 64, 787, 135232, 4330, 35, 26, 19, 26, 35, 170, 19, 26, 19, 26, 35, 42, 51, 1098, 32, 1706,
  608, 114, 192, 90, 80, 27, 24, 171, 18, 219, 16, 91, 16, 27, 16, 43, 16, 43, 16, 1739, 276, 263,
  2235, 96, 3499, 295, 1035, 39, 875, 135, 512, 171, 32, 27, 55, 257, 18, 30, 32, 34, 16, 46, 112,
  264, 16, 46, 98, 206, 39, 96, 66, 30, 32, 18, 32, 18, 30, 66, 46, 16, 66, 32, 18, 32, 18, 112,
  27, 16, 20, 48, 27, 16, 27, 16, 27, 16, 27, 16, 2027, 32, 17, 16, 34, 16, 18, 16, 146, 16, 162,
  16, 18, 16, 18, 48, 418, 64, 466, 16, 34, 46, 18, 78, 906, 47, 17, 490, 48, 106, 32, 106, 32,
  106, 32, 58, 48, 62, 16, 62, 16, 126, 272, 195, 16, 419, 16, 307, 16, 35, 16, 243, 32, 227, 544,
  1971, 80, 19, 23, 19, 64, 723, 48, 147, 1239, 35, 16, 215, 48, 23, 752, 723, 24, 2080, 467, 48,
  787, 240, 24, 438, 64, 579, 144, 483, 80, 611, 88, 80, 483, 16, 595, 64, 227, 672, 650, 1891, 32,
  163, 96, 586, 64, 579, 64, 643, 128, 835, 176, 19, 186, 16, 250, 16, 122, 16, 42, 16, 179, 16,
  243, 16, 115, 16, 35, 48, 835, 192, 4979, 144, 355, 160, 131, 384, 19, 90, 16, 490, 18, 186, 16,
  154, 1104, 100, 32, 20, 16, 708, 16, 36, 48, 20, 32, 372, 16, 1156, 128, 148, 768, 308, 16, 36,
  80, 532, 48, 23, 420, 80, 436, 608, 900, 64, 324, 32, 756, 56, 16, 40, 80, 72, 68, 16, 52, 16,
  468, 32, 56, 64, 24, 148, 112, 148, 112, 1028, 512, 596, 40, 64, 196, 144, 868, 48, 119, 356, 32,
  436, 80, 420, 112, 68, 192, 116, 1280, 1172, 880, 827, 208, 820, 112, 676, 72, 128, 165, 96, 260,
  363, 48, 88, 388, 128, 39, 3328, 501, 16, 676, 16, 40, 20, 32, 36, 256, 100, 128, 151, 528, 104,
  644, 128, 356, 184, 148, 352, 292, 72, 68, 608, 452, 320, 372, 144, 25, 24, 25, 851, 248, 115,
  64, 327, 163, 24, 35, 40, 19, 144, 56, 25, 723, 57, 72, 41, 40, 35, 16, 67, 24, 208, 403, 112,
  163, 96, 56, 579, 88, 25, 136, 16, 243, 41, 19, 128, 563, 24, 51, 144, 40, 25, 771, 57, 152, 41,
  131, 72, 19, 25, 24, 259, 16, 323, 176, 291, 16, 403, 57, 56, 41, 24, 25, 40, 99, 24, 35, 24,
  992, 115, 16, 19, 16, 67, 16, 243, 16, 179, 96, 755, 24, 57, 136, 80, 163, 96, 40, 41, 16, 131,
  32, 35, 32, 355, 16, 115, 16, 35, 16, 83, 16, 40, 19, 41, 24, 73, 32, 41, 32, 57, 32, 19, 96, 25,
  80, 83, 41, 32, 120, 48, 88, 176, 163, 16, 19, 32, 19, 16, 611, 16, 19, 57, 104, 16, 25, 32, 25,
  16, 73, 16, 41, 24, 25, 24, 19, 24, 51, 16, 35, 128, 40, 464, 851, 57, 136, 41, 56, 25, 24, 339,
  16, 19, 24, 51, 480, 771, 57, 104, 25, 24, 73, 40, 25, 40, 67, 128, 163, 2656, 755, 57, 72, 32,
  73, 40, 25, 40, 435, 40, 544, 771, 57, 136, 41, 24, 25, 40, 67, 176, 163, 96, 215, 304, 691, 24,
  25, 24, 41, 104, 25, 24, 35, 96, 163, 96, 323, 448, 435, 32, 56, 41, 72, 25, 88, 64, 371, 2960,
  707, 57, 152, 25, 40, 19, 1600, 522, 819, 192, 131, 32, 19, 32, 131, 16, 35, 16, 387, 105, 16,
  41, 32, 40, 25, 24, 19, 25, 19, 25, 24, 51, 144, 163, 1120, 131, 32, 627, 57, 72, 32, 40, 73, 24,
  51, 25, 432, 19, 104, 41, 40, 643, 104, 25, 19, 72, 131, 24, 128, 19, 104, 41, 56, 739, 216, 25,
  40, 147, 208, 1171, 112, 163, 1376, 24, 25, 56, 25, 24, 25, 1408, 547, 224, 163, 96, 147, 16,
  595, 25, 120, 16, 104, 41, 99, 160, 467, 48, 515, 32, 360, 16, 25, 120, 25, 40, 25, 40, 1168,
  115, 16, 35, 16, 611, 104, 48, 24, 16, 40, 16, 120, 19, 24, 128, 163, 96, 99, 16, 35, 16, 515,
  89, 16, 40, 16, 41, 24, 25, 24, 19, 112, 163, 96, 707, 64, 163, 3936, 307, 40, 41, 35, 112, 40,
  19, 25, 211, 16, 547, 41, 88, 48, 41, 24, 25, 24, 371, 24, 1360, 19, 240, 339, 471, 208, 14771,
  1632, 1779, 16, 83, 176, 3139, 42176, 1587, 208, 17155, 256, 24, 99, 248, 160, 63923, 80, 9331,
  109456, 483, 200, 57, 56, 163, 27744, 9107, 112, 499, 16, 163, 64, 1299, 16, 163, 96, 483, 32,
  88, 19, 160, 771, 120, 243, 160, 163, 16, 115, 16, 339, 80, 307, 6912, 931, 3168, 522, 947, 80,
  410, 32, 403, 704, 1203, 64, 24, 19, 889, 112, 72, 211, 1024, 35, 23, 19, 24, 176, 41, 83, 144,
  118115, 656, 515, 1552, 1843, 139216, 67, 16, 115, 16, 35, 16, 4659, 240, 19, 464, 51, 32, 19,
  224, 67, 128, 6339, 36928, 1715, 80, 211, 48, 147, 112, 163, 32, 19, 40, 19, 65, 62912, 3431,
  578, 55, 48, 6983, 96, 375, 240, 279, 240, 744, 32, 376, 144, 1859, 960, 3939, 160, 627, 32, 851,
  122, 41, 56, 51, 105, 129, 136, 35, 120, 483, 72, 211, 106, 643, 39, 336, 1063, 56, 23, 1952,
  323, 192, 323, 192, 1399, 144, 403, 2160, 1362, 16, 1138, 16, 34, 32, 18, 32, 34, 32, 66, 16,
  194, 16, 18, 16, 114, 16, 1042, 16, 66, 32, 130, 16, 114, 16, 450, 16, 66, 16, 82, 16, 18, 48,
  114, 16, 5410, 42, 32, 410, 30, 410, 30, 506, 30, 410, 30, 506, 30, 410, 30, 506, 30, 410, 30,
  506, 30, 410, 30, 138, 32, 802, 8195, 888, 67, 808, 131, 24, 227, 24, 115, 240, 88, 16, 248,
  17664, 499, 96, 99, 3408, 120, 16, 280, 32, 120, 16, 40, 16, 88, 80, 1002, 528, 24, 1792, 723,
  48, 120, 115, 32, 163, 64, 35, 5120, 483, 24, 272, 707, 72, 163, 80, 23, 7424, 451, 72, 163,
  3424, 483, 40, 179, 64, 19, 3072, 499, 16, 51, 24, 35, 24, 115, 40, 83, 24, 128, 35, 3584, 115,
  16, 67, 16, 35, 16, 243, 16, 3156, 32, 148, 120, 656, 555, 548, 120, 20, 64, 164, 64, 36, 12560,
  1092, 1216, 980, 3104, 75, 16, 443, 16, 43, 16, 27, 32, 27, 16, 171, 16, 75, 16, 27, 16, 27, 96,
  27, 64, 27, 16, 27, 16, 27, 16, 59, 16, 43, 16, 27, 32, 27, 16, 27, 16, 27, 16, 27, 16, 27, 16,
  43, 16, 27, 32, 75, 16, 123, 16, 75, 16, 75, 16, 27, 16, 171, 16, 283, 80, 59, 16, 91, 16, 283,
  832, 39, 4320, 711, 64, 1607, 192, 247, 32, 247, 16, 247, 16, 599, 176, 162, 87, 498, 23, 514,
  419, 50, 55, 515, 18, 451, 23, 896, 419, 58, 208, 714, 64, 146, 112, 42, 224, 103, 2464, 15767,
  48, 279, 48, 215, 48, 3495, 96, 199, 64, 23, 240, 199, 64, 903, 128, 167, 96, 647, 128, 487, 32,
  199, 64, 39, 224, 151, 624, 5511, 128, 231, 32, 215, 48, 183, 48, 919, 16, 23, 64, 263, 32, 199,
  64, 167, 112, 2359, 16, 1479, 162, 23, 16464, 683523, 512, 70115, 32, 92387, 32, 119571, 240,
  9955, 39456, 8682, 24096, 79027, 80, 135843, 11323488, 3841]

def Fate.ofCode : Nat → Fate
  | 1 => .removed
  | 2 => .spelled
  | 3 => .kept .leftToRight true
  | 4 => .kept .rightToLeft true
  | 5 => .kept .arabicNumber true
  | 6 => .kept .europeanNumber true
  | 7 => .kept .neutral true
  | 8 => .kept .mark true
  | 9 => .kept .spacingMark true
  | 10 => .kept .leftToRight false
  | 11 => .kept .rightToLeft false
  | 13 => .kept .europeanNumber false
  | 14 => .kept .neutral false
  | 15 => .kept .mark false
  | _ => .refused

def codeIn : List Nat → Nat → Nat
  | [], _ => 0
  | run :: runs, n => if n < run / 16 then run % 16 else codeIn runs (n - run / 16)

def isForbidden (c : Char) : Bool :=
  c.toNat ≤ 32 || c.toNat == 127 ||
    ['#', '%', '/', ':', '<', '>', '?', '@', '[', '\\', ']', '^', '|'].elem c

def fate (c : Char) : Fate :=
  if 128 ≤ c.toNat then .ofCode (codeIn fateRuns (c.toNat - 128))
  else if isForbidden c then .refused
  else if c.isAlpha then .kept .leftToRight (!c.isUpper)
  else if c.isDigit then .kept .europeanNumber true
  else .kept .neutral true

def kind (c : Char) : Kind :=
  match fate c with
  | .kept kind _ => kind
  | _ => .neutral

def isMark (c : Char) : Bool := kind c = .mark || kind c = .spacingMark

end Bulletin.Domain
