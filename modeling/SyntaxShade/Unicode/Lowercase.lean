import SyntaxShade.Unicode.Table
/-! The simple lowercase mapping of the Unicode Character Database 17.0. -/
namespace SyntaxShade.Unicode

/-- Code points with a lowercase form other than themselves, as a pair table: for each, the gap
after the previous one and the zigzag encoded offset to its lowercase form. -/
def lowerNumbers : List Nat :=
  [
    65, 64, 0, 64, 0, 64, 0, 64, 0, 64, 0, 64, 0, 64, 0, 64, 0, 64, 0, 64, 0, 64, 0, 64, 0, 64, 0,
    64, 0, 64, 0, 64, 0, 64, 0, 64, 0, 64, 0, 64, 0, 64, 0, 64, 0, 64, 0, 64, 0, 64, 0, 64, 101,
    64, 0, 64, 0, 64, 0, 64, 0, 64, 0, 64, 0, 64, 0, 64, 0, 64, 0, 64, 0, 64, 0, 64, 0, 64, 0, 64,
    0, 64, 0, 64, 0, 64, 0, 64, 0, 64, 0, 64, 0, 64, 0, 64, 0, 64, 1, 64, 0, 64, 0, 64, 0, 64, 0,
    64, 0, 64, 0, 64, 33, 2, 1, 2, 1, 2, 1, 2, 1, 2, 1, 2, 1, 2, 1, 2, 1, 2, 1, 2, 1, 2, 1, 2, 1,
    2, 1, 2, 1, 2, 1, 2, 1, 2, 1, 2, 1, 2, 1, 2, 1, 2, 1, 2, 1, 2, 1, 2, 1, 397, 1, 2, 1, 2, 1, 2,
    2, 2, 1, 2, 1, 2, 1, 2, 1, 2, 1, 2, 1, 2, 1, 2, 2, 2, 1, 2, 1, 2, 1, 2, 1, 2, 1, 2, 1, 2, 1, 2,
    1, 2, 1, 2, 1, 2, 1, 2, 1, 2, 1, 2, 1, 2, 1, 2, 1, 2, 1, 2, 1, 2, 1, 2, 1, 2, 1, 2, 1, 2, 1,
    241, 0, 2, 1, 2, 1, 2, 3, 420, 0, 2, 1, 2, 1, 412, 0, 2, 1, 410, 0, 410, 0, 2, 2, 158, 0, 404,
    0, 406, 0, 2, 1, 410, 0, 414, 1, 422, 0, 418, 0, 2, 3, 422, 0, 426, 1, 428, 0, 2, 1, 2, 1, 2,
    1, 436, 0, 2, 1, 436, 2, 2, 1, 436, 0, 2, 1, 434, 0, 434, 0, 2, 1, 2, 1, 438, 0, 2, 3, 2, 7, 4,
    0, 2, 1, 4, 0, 2, 1, 4, 0, 2, 1, 2, 1, 2, 1, 2, 1, 2, 1, 2, 1, 2, 1, 2, 1, 2, 2, 2, 1, 2, 1, 2,
    1, 2, 1, 2, 1, 2, 1, 2, 1, 2, 1, 2, 2, 4, 0, 2, 1, 2, 1, 193, 0, 111, 0, 2, 1, 2, 1, 2, 1, 2,
    1, 2, 1, 2, 1, 2, 1, 2, 1, 2, 1, 2, 1, 2, 1, 2, 1, 2, 1, 2, 1, 2, 1, 2, 1, 2, 1, 2, 1, 2, 1, 2,
    1, 259, 1, 2, 1, 2, 1, 2, 1, 2, 1, 2, 1, 2, 1, 2, 1, 2, 1, 2, 7, 21590, 0, 2, 1, 325, 0, 21584,
    2, 2, 1, 389, 0, 138, 0, 142, 0, 2, 1, 2, 1, 2, 1, 2, 1, 2, 289, 2, 1, 2, 3, 2, 8, 232, 6, 76,
    1, 74, 0, 74, 0, 74, 1, 128, 1, 126, 0, 126, 1, 64, 0, 64, 0, 64, 0, 64, 0, 64, 0, 64, 0, 64,
    0, 64, 0, 64, 0, 64, 0, 64, 0, 64, 0, 64, 0, 64, 0, 64, 0, 64, 0, 64, 1, 64, 0, 64, 0, 64, 0,
    64, 0, 64, 0, 64, 0, 64, 0, 64, 0, 64, 35, 16, 8, 2, 1, 2, 1, 2, 1, 2, 1, 2, 1, 2, 1, 2, 1, 2,
    1, 2, 1, 2, 1, 2, 1, 2, 5, 119, 2, 2, 1, 13, 0, 2, 2, 259, 0, 259, 0, 259, 0, 160, 0, 160, 0,
    160, 0, 160, 0, 160, 0, 160, 0, 160, 0, 160, 0, 160, 0, 160, 0, 160, 0, 160, 0, 160, 0, 160, 0,
    160, 0, 160, 0, 64, 0, 64, 0, 64, 0, 64, 0, 64, 0, 64, 0, 64, 0, 64, 0, 64, 0, 64, 0, 64, 0,
    64, 0, 64, 0, 64, 0, 64, 0, 64, 0, 64, 0, 64, 0, 64, 0, 64, 0, 64, 0, 64, 0, 64, 0, 64, 0, 64,
    0, 64, 0, 64, 0, 64, 0, 64, 0, 64, 0, 64, 0, 64, 48, 2, 1, 2, 1, 2, 1, 2, 1, 2, 1, 2, 1, 2, 1,
    2, 1, 2, 1, 2, 1, 2, 1, 2, 1, 2, 1, 2, 1, 2, 1, 2, 1, 2, 9, 2, 1, 2, 1, 2, 1, 2, 1, 2, 1, 2, 1,
    2, 1, 2, 1, 2, 1, 2, 1, 2, 1, 2, 1, 2, 1, 2, 1, 2, 1, 2, 1, 2, 1, 2, 1, 2, 1, 2, 1, 2, 1, 2, 1,
    2, 1, 2, 1, 2, 1, 2, 1, 2, 1, 30, 0, 2, 1, 2, 1, 2, 1, 2, 1, 2, 1, 2, 1, 2, 2, 2, 1, 2, 1, 2,
    1, 2, 1, 2, 1, 2, 1, 2, 1, 2, 1, 2, 1, 2, 1, 2, 1, 2, 1, 2, 1, 2, 1, 2, 1, 2, 1, 2, 1, 2, 1, 2,
    1, 2, 1, 2, 1, 2, 1, 2, 1, 2, 1, 2, 1, 2, 1, 2, 1, 2, 1, 2, 1, 2, 1, 2, 1, 2, 1, 2, 1, 2, 1, 2,
    1, 2, 1, 2, 1, 2, 1, 2, 1, 2, 1, 2, 1, 2, 1, 2, 1, 2, 1, 2, 1, 2, 1, 2, 1, 2, 2, 96, 0, 96, 0,
    96, 0, 96, 0, 96, 0, 96, 0, 96, 0, 96, 0, 96, 0, 96, 0, 96, 0, 96, 0, 96, 0, 96, 0, 96, 0, 96,
    0, 96, 0, 96, 0, 96, 0, 96, 0, 96, 0, 96, 0, 96, 0, 96, 0, 96, 0, 96, 0, 96, 0, 96, 0, 96, 0,
    96, 0, 96, 0, 96, 0, 96, 0, 96, 0, 96, 0, 96, 0, 96, 0, 96, 2889, 14528, 0, 14528, 0, 14528, 0,
    14528, 0, 14528, 0, 14528, 0, 14528, 0, 14528, 0, 14528, 0, 14528, 0, 14528, 0, 14528, 0,
    14528, 0, 14528, 0, 14528, 0, 14528, 0, 14528, 0, 14528, 0, 14528, 0, 14528, 0, 14528, 0,
    14528, 0, 14528, 0, 14528, 0, 14528, 0, 14528, 0, 14528, 0, 14528, 0, 14528, 0, 14528, 0,
    14528, 0, 14528, 0, 14528, 0, 14528, 0, 14528, 0, 14528, 0, 14528, 0, 14528, 1, 14528, 5,
    14528, 722, 77728, 0, 77728, 0, 77728, 0, 77728, 0, 77728, 0, 77728, 0, 77728, 0, 77728, 0,
    77728, 0, 77728, 0, 77728, 0, 77728, 0, 77728, 0, 77728, 0, 77728, 0, 77728, 0, 77728, 0,
    77728, 0, 77728, 0, 77728, 0, 77728, 0, 77728, 0, 77728, 0, 77728, 0, 77728, 0, 77728, 0,
    77728, 0, 77728, 0, 77728, 0, 77728, 0, 77728, 0, 77728, 0, 77728, 0, 77728, 0, 77728, 0,
    77728, 0, 77728, 0, 77728, 0, 77728, 0, 77728, 0, 77728, 0, 77728, 0, 77728, 0, 77728, 0,
    77728, 0, 77728, 0, 77728, 0, 77728, 0, 77728, 0, 77728, 0, 77728, 0, 77728, 0, 77728, 0,
    77728, 0, 77728, 0, 77728, 0, 77728, 0, 77728, 0, 77728, 0, 77728, 0, 77728, 0, 77728, 0,
    77728, 0, 77728, 0, 77728, 0, 77728, 0, 77728, 0, 77728, 0, 77728, 0, 77728, 0, 77728, 0,
    77728, 0, 77728, 0, 77728, 0, 77728, 0, 77728, 0, 77728, 0, 77728, 0, 77728, 0, 77728, 0, 16,
    0, 16, 0, 16, 0, 16, 0, 16, 0, 16, 2195, 2, 6, 6015, 0, 6015, 0, 6015, 0, 6015, 0, 6015, 0,
    6015, 0, 6015, 0, 6015, 0, 6015, 0, 6015, 0, 6015, 0, 6015, 0, 6015, 0, 6015, 0, 6015, 0, 6015,
    0, 6015, 0, 6015, 0, 6015, 0, 6015, 0, 6015, 0, 6015, 0, 6015, 0, 6015, 0, 6015, 0, 6015, 0,
    6015, 0, 6015, 0, 6015, 0, 6015, 0, 6015, 0, 6015, 0, 6015, 0, 6015, 0, 6015, 0, 6015, 0, 6015,
    0, 6015, 0, 6015, 0, 6015, 0, 6015, 0, 6015, 0, 6015, 2, 6015, 0, 6015, 0, 6015, 320, 2, 1, 2,
    1, 2, 1, 2, 1, 2, 1, 2, 1, 2, 1, 2, 1, 2, 1, 2, 1, 2, 1, 2, 1, 2, 1, 2, 1, 2, 1, 2, 1, 2, 1, 2,
    1, 2, 1, 2, 1, 2, 1, 2, 1, 2, 1, 2, 1, 2, 1, 2, 1, 2, 1, 2, 1, 2, 1, 2, 1, 2, 1, 2, 1, 2, 1, 2,
    1, 2, 1, 2, 1, 2, 1, 2, 1, 2, 1, 2, 1, 2, 1, 2, 1, 2, 1, 2, 1, 2, 1, 2, 1, 2, 1, 2, 1, 2, 1, 2,
    1, 2, 1, 2, 1, 2, 1, 2, 1, 2, 1, 2, 1, 2, 1, 2, 1, 2, 1, 2, 1, 2, 1, 2, 1, 2, 1, 2, 1, 2, 1, 2,
    1, 2, 1, 2, 1, 2, 1, 2, 1, 2, 1, 2, 1, 2, 1, 2, 1, 2, 9, 15229, 1, 2, 1, 2, 1, 2, 1, 2, 1, 2,
    1, 2, 1, 2, 1, 2, 1, 2, 1, 2, 1, 2, 1, 2, 1, 2, 1, 2, 1, 2, 1, 2, 1, 2, 1, 2, 1, 2, 1, 2, 1, 2,
    1, 2, 1, 2, 1, 2, 1, 2, 1, 2, 1, 2, 1, 2, 1, 2, 1, 2, 1, 2, 1, 2, 1, 2, 1, 2, 1, 2, 1, 2, 1, 2,
    1, 2, 1, 2, 1, 2, 1, 2, 1, 2, 1, 2, 1, 2, 1, 2, 1, 2, 1, 2, 1, 2, 9, 15, 0, 15, 0, 15, 0, 15,
    0, 15, 0, 15, 0, 15, 0, 15, 8, 15, 0, 15, 0, 15, 0, 15, 0, 15, 0, 15, 10, 15, 0, 15, 0, 15, 0,
    15, 0, 15, 0, 15, 0, 15, 0, 15, 8, 15, 0, 15, 0, 15, 0, 15, 0, 15, 0, 15, 0, 15, 0, 15, 8, 15,
    0, 15, 0, 15, 0, 15, 0, 15, 0, 15, 11, 15, 1, 15, 1, 15, 1, 15, 8, 15, 0, 15, 0, 15, 0, 15, 0,
    15, 0, 15, 0, 15, 0, 15, 24, 15, 0, 15, 0, 15, 0, 15, 0, 15, 0, 15, 0, 15, 0, 15, 8, 15, 0, 15,
    0, 15, 0, 15, 0, 15, 0, 15, 0, 15, 0, 15, 8, 15, 0, 15, 0, 15, 0, 15, 0, 15, 0, 15, 0, 15, 0,
    15, 8, 15, 0, 15, 0, 147, 0, 147, 0, 17, 11, 171, 0, 171, 0, 171, 0, 171, 0, 17, 11, 15, 0, 15,
    0, 199, 0, 199, 12, 15, 0, 15, 0, 223, 0, 223, 0, 13, 11, 255, 0, 255, 0, 251, 0, 251, 0, 17,
    297, 15033, 3, 16765, 0, 16523, 6, 56, 45, 32, 0, 32, 0, 32, 0, 32, 0, 32, 0, 32, 0, 32, 0, 32,
    0, 32, 0, 32, 0, 32, 0, 32, 0, 32, 0, 32, 0, 32, 0, 32, 19, 2, 818, 52, 0, 52, 0, 52, 0, 52, 0,
    52, 0, 52, 0, 52, 0, 52, 0, 52, 0, 52, 0, 52, 0, 52, 0, 52, 0, 52, 0, 52, 0, 52, 0, 52, 0, 52,
    0, 52, 0, 52, 0, 52, 0, 52, 0, 52, 0, 52, 0, 52, 0, 52, 1840, 96, 0, 96, 0, 96, 0, 96, 0, 96,
    0, 96, 0, 96, 0, 96, 0, 96, 0, 96, 0, 96, 0, 96, 0, 96, 0, 96, 0, 96, 0, 96, 0, 96, 0, 96, 0,
    96, 0, 96, 0, 96, 0, 96, 0, 96, 0, 96, 0, 96, 0, 96, 0, 96, 0, 96, 0, 96, 0, 96, 0, 96, 0, 96,
    0, 96, 0, 96, 0, 96, 0, 96, 0, 96, 0, 96, 0, 96, 0, 96, 0, 96, 0, 96, 0, 96, 0, 96, 0, 96, 0,
    96, 0, 96, 0, 96, 48, 2, 1, 21485, 0, 7627, 0, 21453, 2, 2, 1, 2, 1, 2, 1, 21559, 0, 21497, 0,
    21565, 0, 21563, 1, 2, 2, 2, 8, 21629, 0, 21629, 0, 2, 1, 2, 1, 2, 1, 2, 1, 2, 1, 2, 1, 2, 1,
    2, 1, 2, 1, 2, 1, 2, 1, 2, 1, 2, 1, 2, 1, 2, 1, 2, 1, 2, 1, 2, 1, 2, 1, 2, 1, 2, 1, 2, 1, 2, 1,
    2, 1, 2, 1, 2, 1, 2, 1, 2, 1, 2, 1, 2, 1, 2, 1, 2, 1, 2, 1, 2, 1, 2, 1, 2, 1, 2, 1, 2, 1, 2, 1,
    2, 1, 2, 1, 2, 1, 2, 1, 2, 1, 2, 1, 2, 1, 2, 1, 2, 1, 2, 1, 2, 8, 2, 1, 2, 4, 2, 31053, 2, 1,
    2, 1, 2, 1, 2, 1, 2, 1, 2, 1, 2, 1, 2, 1, 2, 1, 2, 1, 2, 1, 2, 1, 2, 1, 2, 1, 2, 1, 2, 1, 2, 1,
    2, 1, 2, 1, 2, 1, 2, 1, 2, 1, 2, 19, 2, 1, 2, 1, 2, 1, 2, 1, 2, 1, 2, 1, 2, 1, 2, 1, 2, 1, 2,
    1, 2, 1, 2, 1, 2, 1, 2, 135, 2, 1, 2, 1, 2, 1, 2, 1, 2, 1, 2, 1, 2, 3, 2, 1, 2, 1, 2, 1, 2, 1,
    2, 1, 2, 1, 2, 1, 2, 1, 2, 1, 2, 1, 2, 1, 2, 1, 2, 1, 2, 1, 2, 1, 2, 1, 2, 1, 2, 1, 2, 1, 2, 1,
    2, 1, 2, 1, 2, 1, 2, 1, 2, 1, 2, 1, 2, 1, 2, 1, 2, 1, 2, 1, 2, 10, 2, 1, 2, 1, 70663, 0, 2, 1,
    2, 1, 2, 1, 2, 1, 2, 4, 2, 1, 84559, 2, 2, 1, 2, 3, 2, 1, 2, 1, 2, 1, 2, 1, 2, 1, 2, 1, 2, 1,
    2, 1, 2, 1, 2, 1, 84615, 0, 84637, 0, 84629, 0, 84609, 0, 84615, 1, 84515, 0, 84563, 0, 84521,
    0, 1856, 0, 2, 1, 2, 1, 2, 1, 2, 1, 2, 1, 2, 1, 2, 1, 2, 1, 95, 0, 84613, 0, 70767, 0, 2, 1, 2,
    1, 84685, 0, 2, 1, 2, 1, 2, 1, 2, 1, 2, 1, 2, 1, 2, 1, 2, 1, 85121, 24, 2, 22315, 64, 0, 64, 0,
    64, 0, 64, 0, 64, 0, 64, 0, 64, 0, 64, 0, 64, 0, 64, 0, 64, 0, 64, 0, 64, 0, 64, 0, 64, 0, 64,
    0, 64, 0, 64, 0, 64, 0, 64, 0, 64, 0, 64, 0, 64, 0, 64, 0, 64, 0, 64, 1221, 80, 0, 80, 0, 80,
    0, 80, 0, 80, 0, 80, 0, 80, 0, 80, 0, 80, 0, 80, 0, 80, 0, 80, 0, 80, 0, 80, 0, 80, 0, 80, 0,
    80, 0, 80, 0, 80, 0, 80, 0, 80, 0, 80, 0, 80, 0, 80, 0, 80, 0, 80, 0, 80, 0, 80, 0, 80, 0, 80,
    0, 80, 0, 80, 0, 80, 0, 80, 0, 80, 0, 80, 0, 80, 0, 80, 0, 80, 0, 80, 136, 80, 0, 80, 0, 80, 0,
    80, 0, 80, 0, 80, 0, 80, 0, 80, 0, 80, 0, 80, 0, 80, 0, 80, 0, 80, 0, 80, 0, 80, 0, 80, 0, 80,
    0, 80, 0, 80, 0, 80, 0, 80, 0, 80, 0, 80, 0, 80, 0, 80, 0, 80, 0, 80, 0, 80, 0, 80, 0, 80, 0,
    80, 0, 80, 0, 80, 0, 80, 0, 80, 0, 80, 156, 78, 0, 78, 0, 78, 0, 78, 0, 78, 0, 78, 0, 78, 0,
    78, 0, 78, 0, 78, 0, 78, 1, 78, 0, 78, 0, 78, 0, 78, 0, 78, 0, 78, 0, 78, 0, 78, 0, 78, 0, 78,
    0, 78, 0, 78, 0, 78, 0, 78, 0, 78, 1, 78, 0, 78, 0, 78, 0, 78, 0, 78, 0, 78, 0, 78, 1, 78, 0,
    78, 1770, 128, 0, 128, 0, 128, 0, 128, 0, 128, 0, 128, 0, 128, 0, 128, 0, 128, 0, 128, 0, 128,
    0, 128, 0, 128, 0, 128, 0, 128, 0, 128, 0, 128, 0, 128, 0, 128, 0, 128, 0, 128, 0, 128, 0, 128,
    0, 128, 0, 128, 0, 128, 0, 128, 0, 128, 0, 128, 0, 128, 0, 128, 0, 128, 0, 128, 0, 128, 0, 128,
    0, 128, 0, 128, 0, 128, 0, 128, 0, 128, 0, 128, 0, 128, 0, 128, 0, 128, 0, 128, 0, 128, 0, 128,
    0, 128, 0, 128, 0, 128, 0, 128, 157, 64, 0, 64, 0, 64, 0, 64, 0, 64, 0, 64, 0, 64, 0, 64, 0,
    64, 0, 64, 0, 64, 0, 64, 0, 64, 0, 64, 0, 64, 0, 64, 0, 64, 0, 64, 0, 64, 0, 64, 0, 64, 0, 64,
    2874, 64, 0, 64, 0, 64, 0, 64, 0, 64, 0, 64, 0, 64, 0, 64, 0, 64, 0, 64, 0, 64, 0, 64, 0, 64,
    0, 64, 0, 64, 0, 64, 0, 64, 0, 64, 0, 64, 0, 64, 0, 64, 0, 64, 0, 64, 0, 64, 0, 64, 0, 64, 0,
    64, 0, 64, 0, 64, 0, 64, 0, 64, 0, 64, 21888, 64, 0, 64, 0, 64, 0, 64, 0, 64, 0, 64, 0, 64, 0,
    64, 0, 64, 0, 64, 0, 64, 0, 64, 0, 64, 0, 64, 0, 64, 0, 64, 0, 64, 0, 64, 0, 64, 0, 64, 0, 64,
    0, 64, 0, 64, 0, 64, 0, 64, 0, 64, 0, 64, 0, 64, 0, 64, 0, 64, 0, 64, 0, 64, 64, 54, 0, 54, 0,
    54, 0, 54, 0, 54, 0, 54, 0, 54, 0, 54, 0, 54, 0, 54, 0, 54, 0, 54, 0, 54, 0, 54, 0, 54, 0, 54,
    0, 54, 0, 54, 0, 54, 0, 54, 0, 54, 0, 54, 0, 54, 0, 54, 0, 54, 31303, 68, 0, 68, 0, 68, 0, 68,
    0, 68, 0, 68, 0, 68, 0, 68, 0, 68, 0, 68, 0, 68, 0, 68, 0, 68, 0, 68, 0, 68, 0, 68, 0, 68, 0,
    68, 0, 68, 0, 68, 0, 68, 0, 68, 0, 68, 0, 68, 0, 68, 0, 68, 0, 68, 0, 68, 0, 68, 0, 68, 0, 68,
    0, 68, 0, 68, 0, 68]

/-- The pairs of `lowerNumbers`, sorted by code point. -/
def lowerTable : Array (Nat × Nat) := (pairs lowerNumbers 0).toArray

/-- The simple lowercase form of a code point. -/
def toLower (c : Nat) : Nat := (findPair? lowerTable c).getD c

end SyntaxShade.Unicode
