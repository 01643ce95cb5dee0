import SyntaxShade.Unicode.Table
/-! The simple case folding of the Unicode Character Database 17.0, and the orbits it gives. -/
namespace SyntaxShade.Unicode

/-- Code points whose simple case folding differs from themselves, as a pair table: for each, the
gap after the previous one and the zigzag encoded offset to its folding. -/
def foldNumbers : List Nat :=
  [
    65, 64, 0, 64, 0, 64, 0, 64, 0, 64, 0, 64, 0, 64, 0, 64, 0, 64, 0, 64, 0, 64, 0, 64, 0, 64, 0,
    64, 0, 64, 0, 64, 0, 64, 0, 64, 0, 64, 0, 64, 0, 64, 0, 64, 0, 64, 0, 64, 0, 64, 0, 64, 90,
    1550, 10, 64, 0, 64, 0, 64, 0, 64, 0, 64, 0, 64, 0, 64, 0, 64, 0, 64, 0, 64, 0, 64, 0, 64, 0,
    64, 0, 64, 0, 64, 0, 64, 0, 64, 0, 64, 0, 64, 0, 64, 0, 64, 0, 64, 0, 64, 1, 64, 0, 64, 0, 64,
    0, 64, 0, 64, 0, 64, 0, 64, 33, 2, 1, 2, 1, 2, 1, 2, 1, 2, 1, 2, 1, 2, 1, 2, 1, 2, 1, 2, 1, 2,
    1, 2, 1, 2, 1, 2, 1, 2, 1, 2, 1, 2, 1, 2, 1, 2, 1, 2, 1, 2, 1, 2, 1, 2, 1, 2, 3, 2, 1, 2, 1,
    2, 2, 2, 1, 2, 1, 2, 1, 2, 1, 2, 1, 2, 1, 2, 1, 2, 2, 2, 1, 2, 1, 2, 1, 2, 1, 2, 1, 2, 1, 2,
    1, 2, 1, 2, 1, 2, 1, 2, 1, 2, 1, 2, 1, 2, 1, 2, 1, 2, 1, 2, 1, 2, 1, 2, 1, 2, 1, 2, 1, 2, 1,
    2, 1, 241, 0, 2, 1, 2, 1, 2, 1, 535, 1, 420, 0, 2, 1, 2, 1, 412, 0, 2, 1, 410, 0, 410, 0, 2,
    2, 158, 0, 404, 0, 406, 0, 2, 1, 410, 0, 414, 1, 422, 0, 418, 0, 2, 3, 422, 0, 426, 1, 428, 0,
    2, 1, 2, 1, 2, 1, 436, 0, 2, 1, 436, 2, 2, 1, 436, 0, 2, 1, 434, 0, 434, 0, 2, 1, 2, 1, 438,
    0, 2, 3, 2, 7, 4, 0, 2, 1, 4, 0, 2, 1, 4, 0, 2, 1, 2, 1, 2, 1, 2, 1, 2, 1, 2, 1, 2, 1, 2, 1,
    2, 2, 2, 1, 2, 1, 2, 1, 2, 1, 2, 1, 2, 1, 2, 1, 2, 1, 2, 2, 4, 0, 2, 1, 2, 1, 193, 0, 111, 0,
    2, 1, 2, 1, 2, 1, 2, 1, 2, 1, 2, 1, 2, 1, 2, 1, 2, 1, 2, 1, 2, 1, 2, 1, 2, 1, 2, 1, 2, 1, 2,
    1, 2, 1, 2, 1, 2, 1, 2, 1, 259, 1, 2, 1, 2, 1, 2, 1, 2, 1, 2, 1, 2, 1, 2, 1, 2, 1, 2, 7,
    21590, 0, 2, 1, 325, 0, 21584, 2, 2, 1, 389, 0, 138, 0, 142, 0, 2, 1, 2, 1, 2, 1, 2, 1, 2,
    246, 232, 42, 2, 1, 2, 3, 2, 8, 232, 6, 76, 1, 74, 0, 74, 0, 74, 1, 128, 1, 126, 0, 126, 1,
    64, 0, 64, 0, 64, 0, 64, 0, 64, 0, 64, 0, 64, 0, 64, 0, 64, 0, 64, 0, 64, 0, 64, 0, 64, 0, 64,
    0, 64, 0, 64, 0, 64, 1, 64, 0, 64, 0, 64, 0, 64, 0, 64, 0, 64, 0, 64, 0, 64, 0, 64, 22, 2, 12,
    16, 0, 59, 0, 49, 3, 29, 0, 43, 1, 2, 1, 2, 1, 2, 1, 2, 1, 2, 1, 2, 1, 2, 1, 2, 1, 2, 1, 2, 1,
    2, 1, 2, 1, 107, 0, 95, 2, 119, 0, 127, 1, 2, 1, 13, 0, 2, 2, 259, 0, 259, 0, 259, 0, 160, 0,
    160, 0, 160, 0, 160, 0, 160, 0, 160, 0, 160, 0, 160, 0, 160, 0, 160, 0, 160, 0, 160, 0, 160,
    0, 160, 0, 160, 0, 160, 0, 64, 0, 64, 0, 64, 0, 64, 0, 64, 0, 64, 0, 64, 0, 64, 0, 64, 0, 64,
    0, 64, 0, 64, 0, 64, 0, 64, 0, 64, 0, 64, 0, 64, 0, 64, 0, 64, 0, 64, 0, 64, 0, 64, 0, 64, 0,
    64, 0, 64, 0, 64, 0, 64, 0, 64, 0, 64, 0, 64, 0, 64, 0, 64, 48, 2, 1, 2, 1, 2, 1, 2, 1, 2, 1,
    2, 1, 2, 1, 2, 1, 2, 1, 2, 1, 2, 1, 2, 1, 2, 1, 2, 1, 2, 1, 2, 1, 2, 9, 2, 1, 2, 1, 2, 1, 2,
    1, 2, 1, 2, 1, 2, 1, 2, 1, 2, 1, 2, 1, 2, 1, 2, 1, 2, 1, 2, 1, 2, 1, 2, 1, 2, 1, 2, 1, 2, 1,
    2, 1, 2, 1, 2, 1, 2, 1, 2, 1, 2, 1, 2, 1, 2, 1, 30, 0, 2, 1, 2, 1, 2, 1, 2, 1, 2, 1, 2, 1, 2,
    2, 2, 1, 2, 1, 2, 1, 2, 1, 2, 1, 2, 1, 2, 1, 2, 1, 2, 1, 2, 1, 2, 1, 2, 1, 2, 1, 2, 1, 2, 1,
    2, 1, 2, 1, 2, 1, 2, 1, 2, 1, 2, 1, 2, 1, 2, 1, 2, 1, 2, 1, 2, 1, 2, 1, 2, 1, 2, 1, 2, 1, 2,
    1, 2, 1, 2, 1, 2, 1, 2, 1, 2, 1, 2, 1, 2, 1, 2, 1, 2, 1, 2, 1, 2, 1, 2, 1, 2, 1, 2, 1, 2, 1,
    2, 1, 2, 2, 96, 0, 96, 0, 96, 0, 96, 0, 96, 0, 96, 0, 96, 0, 96, 0, 96, 0, 96, 0, 96, 0, 96,
    0, 96, 0, 96, 0, 96, 0, 96, 0, 96, 0, 96, 0, 96, 0, 96, 0, 96, 0, 96, 0, 96, 0, 96, 0, 96, 0,
    96, 0, 96, 0, 96, 0, 96, 0, 96, 0, 96, 0, 96, 0, 96, 0, 96, 0, 96, 0, 96, 0, 96, 0, 96, 2889,
    14528, 0, 14528, 0, 14528, 0, 14528, 0, 14528, 0, 14528, 0, 14528, 0, 14528, 0, 14528, 0,
    14528, 0, 14528, 0, 14528, 0, 14528, 0, 14528, 0, 14528, 0, 14528, 0, 14528, 0, 14528, 0,
    14528, 0, 14528, 0, 14528, 0, 14528, 0, 14528, 0, 14528, 0, 14528, 0, 14528, 0, 14528, 0,
    14528, 0, 14528, 0, 14528, 0, 14528, 0, 14528, 0, 14528, 0, 14528, 0, 14528, 0, 14528, 0,
    14528, 0, 14528, 1, 14528, 5, 14528, 810, 15, 0, 15, 0, 15, 0, 15, 0, 15, 0, 15, 2178, 12443,
    0, 12441, 0, 12423, 0, 12419, 0, 12419, 0, 12421, 0, 12407, 0, 12359, 0, 70534, 0, 2, 6, 6015,
    0, 6015, 0, 6015, 0, 6015, 0, 6015, 0, 6015, 0, 6015, 0, 6015, 0, 6015, 0, 6015, 0, 6015, 0,
    6015, 0, 6015, 0, 6015, 0, 6015, 0, 6015, 0, 6015, 0, 6015, 0, 6015, 0, 6015, 0, 6015, 0,
    6015, 0, 6015, 0, 6015, 0, 6015, 0, 6015, 0, 6015, 0, 6015, 0, 6015, 0, 6015, 0, 6015, 0,
    6015, 0, 6015, 0, 6015, 0, 6015, 0, 6015, 0, 6015, 0, 6015, 0, 6015, 0, 6015, 0, 6015, 0,
    6015, 0, 6015, 2, 6015, 0, 6015, 0, 6015, 320, 2, 1, 2, 1, 2, 1, 2, 1, 2, 1, 2, 1, 2, 1, 2, 1,
    2, 1, 2, 1, 2, 1, 2, 1, 2, 1, 2, 1, 2, 1, 2, 1, 2, 1, 2, 1, 2, 1, 2, 1, 2, 1, 2, 1, 2, 1, 2,
    1, 2, 1, 2, 1, 2, 1, 2, 1, 2, 1, 2, 1, 2, 1, 2, 1, 2, 1, 2, 1, 2, 1, 2, 1, 2, 1, 2, 1, 2, 1,
    2, 1, 2, 1, 2, 1, 2, 1, 2, 1, 2, 1, 2, 1, 2, 1, 2, 1, 2, 1, 2, 1, 2, 1, 2, 1, 2, 1, 2, 1, 2,
    1, 2, 1, 2, 1, 2, 1, 2, 1, 2, 1, 2, 1, 2, 1, 2, 1, 2, 1, 2, 1, 2, 1, 2, 1, 2, 1, 2, 1, 2, 1,
    2, 1, 2, 1, 2, 1, 2, 1, 2, 6, 115, 2, 15229, 1, 2, 1, 2, 1, 2, 1, 2, 1, 2, 1, 2, 1, 2, 1, 2,
    1, 2, 1, 2, 1, 2, 1, 2, 1, 2, 1, 2, 1, 2, 1, 2, 1, 2, 1, 2, 1, 2, 1, 2, 1, 2, 1, 2, 1, 2, 1,
    2, 1, 2, 1, 2, 1, 2, 1, 2, 1, 2, 1, 2, 1, 2, 1, 2, 1, 2, 1, 2, 1, 2, 1, 2, 1, 2, 1, 2, 1, 2,
    1, 2, 1, 2, 1, 2, 1, 2, 1, 2, 1, 2, 1, 2, 1, 2, 1, 2, 9, 15, 0, 15, 0, 15, 0, 15, 0, 15, 0,
    15, 0, 15, 0, 15, 8, 15, 0, 15, 0, 15, 0, 15, 0, 15, 0, 15, 10, 15, 0, 15, 0, 15, 0, 15, 0,
    15, 0, 15, 0, 15, 0, 15, 8, 15, 0, 15, 0, 15, 0, 15, 0, 15, 0, 15, 0, 15, 0, 15, 8, 15, 0, 15,
    0, 15, 0, 15, 0, 15, 0, 15, 11, 15, 1, 15, 1, 15, 1, 15, 8, 15, 0, 15, 0, 15, 0, 15, 0, 15, 0,
    15, 0, 15, 0, 15, 24, 15, 0, 15, 0, 15, 0, 15, 0, 15, 0, 15, 0, 15, 0, 15, 8, 15, 0, 15, 0,
    15, 0, 15, 0, 15, 0, 15, 0, 15, 0, 15, 8, 15, 0, 15, 0, 15, 0, 15, 0, 15, 0, 15, 0, 15, 0, 15,
    8, 15, 0, 15, 0, 147, 0, 147, 0, 17, 1, 14345, 9, 171, 0, 171, 0, 171, 0, 171, 0, 17, 6,
    14469, 4, 15, 0, 15, 0, 199, 0, 199, 7, 14437, 4, 15, 0, 15, 0, 223, 0, 223, 0, 13, 11, 255,
    0, 255, 0, 251, 0, 251, 0, 17, 297, 15033, 3, 16765, 0, 16523, 6, 56, 45, 32, 0, 32, 0, 32, 0,
    32, 0, 32, 0, 32, 0, 32, 0, 32, 0, 32, 0, 32, 0, 32, 0, 32, 0, 32, 0, 32, 0, 32, 0, 32, 19, 2,
    818, 52, 0, 52, 0, 52, 0, 52, 0, 52, 0, 52, 0, 52, 0, 52, 0, 52, 0, 52, 0, 52, 0, 52, 0, 52,
    0, 52, 0, 52, 0, 52, 0, 52, 0, 52, 0, 52, 0, 52, 0, 52, 0, 52, 0, 52, 0, 52, 0, 52, 0, 52,
    1840, 96, 0, 96, 0, 96, 0, 96, 0, 96, 0, 96, 0, 96, 0, 96, 0, 96, 0, 96, 0, 96, 0, 96, 0, 96,
    0, 96, 0, 96, 0, 96, 0, 96, 0, 96, 0, 96, 0, 96, 0, 96, 0, 96, 0, 96, 0, 96, 0, 96, 0, 96, 0,
    96, 0, 96, 0, 96, 0, 96, 0, 96, 0, 96, 0, 96, 0, 96, 0, 96, 0, 96, 0, 96, 0, 96, 0, 96, 0, 96,
    0, 96, 0, 96, 0, 96, 0, 96, 0, 96, 0, 96, 0, 96, 0, 96, 48, 2, 1, 21485, 0, 7627, 0, 21453, 2,
    2, 1, 2, 1, 2, 1, 21559, 0, 21497, 0, 21565, 0, 21563, 1, 2, 2, 2, 8, 21629, 0, 21629, 0, 2,
    1, 2, 1, 2, 1, 2, 1, 2, 1, 2, 1, 2, 1, 2, 1, 2, 1, 2, 1, 2, 1, 2, 1, 2, 1, 2, 1, 2, 1, 2, 1,
    2, 1, 2, 1, 2, 1, 2, 1, 2, 1, 2, 1, 2, 1, 2, 1, 2, 1, 2, 1, 2, 1, 2, 1, 2, 1, 2, 1, 2, 1, 2,
    1, 2, 1, 2, 1, 2, 1, 2, 1, 2, 1, 2, 1, 2, 1, 2, 1, 2, 1, 2, 1, 2, 1, 2, 1, 2, 1, 2, 1, 2, 1,
    2, 1, 2, 1, 2, 8, 2, 1, 2, 4, 2, 31053, 2, 1, 2, 1, 2, 1, 2, 1, 2, 1, 2, 1, 2, 1, 2, 1, 2, 1,
    2, 1, 2, 1, 2, 1, 2, 1, 2, 1, 2, 1, 2, 1, 2, 1, 2, 1, 2, 1, 2, 1, 2, 1, 2, 1, 2, 19, 2, 1, 2,
    1, 2, 1, 2, 1, 2, 1, 2, 1, 2, 1, 2, 1, 2, 1, 2, 1, 2, 1, 2, 1, 2, 1, 2, 135, 2, 1, 2, 1, 2, 1,
    2, 1, 2, 1, 2, 1, 2, 3, 2, 1, 2, 1, 2, 1, 2, 1, 2, 1, 2, 1, 2, 1, 2, 1, 2, 1, 2, 1, 2, 1, 2,
    1, 2, 1, 2, 1, 2, 1, 2, 1, 2, 1, 2, 1, 2, 1, 2, 1, 2, 1, 2, 1, 2, 1, 2, 1, 2, 1, 2, 1, 2, 1,
    2, 1, 2, 1, 2, 1, 2, 10, 2, 1, 2, 1, 70663, 0, 2, 1, 2, 1, 2, 1, 2, 1, 2, 4, 2, 1, 84559, 2,
    2, 1, 2, 3, 2, 1, 2, 1, 2, 1, 2, 1, 2, 1, 2, 1, 2, 1, 2, 1, 2, 1, 2, 1, 84615, 0, 84637, 0,
    84629, 0, 84609, 0, 84615, 1, 84515, 0, 84563, 0, 84521, 0, 1856, 0, 2, 1, 2, 1, 2, 1, 2, 1,
    2, 1, 2, 1, 2, 1, 2, 1, 95, 0, 84613, 0, 70767, 0, 2, 1, 2, 1, 84685, 0, 2, 1, 2, 1, 2, 1, 2,
    1, 2, 1, 2, 1, 2, 1, 2, 1, 85121, 24, 2, 890, 77727, 0, 77727, 0, 77727, 0, 77727, 0, 77727,
    0, 77727, 0, 77727, 0, 77727, 0, 77727, 0, 77727, 0, 77727, 0, 77727, 0, 77727, 0, 77727, 0,
    77727, 0, 77727, 0, 77727, 0, 77727, 0, 77727, 0, 77727, 0, 77727, 0, 77727, 0, 77727, 0,
    77727, 0, 77727, 0, 77727, 0, 77727, 0, 77727, 0, 77727, 0, 77727, 0, 77727, 0, 77727, 0,
    77727, 0, 77727, 0, 77727, 0, 77727, 0, 77727, 0, 77727, 0, 77727, 0, 77727, 0, 77727, 0,
    77727, 0, 77727, 0, 77727, 0, 77727, 0, 77727, 0, 77727, 0, 77727, 0, 77727, 0, 77727, 0,
    77727, 0, 77727, 0, 77727, 0, 77727, 0, 77727, 0, 77727, 0, 77727, 0, 77727, 0, 77727, 0,
    77727, 0, 77727, 0, 77727, 0, 77727, 0, 77727, 0, 77727, 0, 77727, 0, 77727, 0, 77727, 0,
    77727, 0, 77727, 0, 77727, 0, 77727, 0, 77727, 0, 77727, 0, 77727, 0, 77727, 0, 77727, 0,
    77727, 0, 77727, 0, 77727, 20293, 2, 1051, 64, 0, 64, 0, 64, 0, 64, 0, 64, 0, 64, 0, 64, 0,
    64, 0, 64, 0, 64, 0, 64, 0, 64, 0, 64, 0, 64, 0, 64, 0, 64, 0, 64, 0, 64, 0, 64, 0, 64, 0, 64,
    0, 64, 0, 64, 0, 64, 0, 64, 0, 64, 1221, 80, 0, 80, 0, 80, 0, 80, 0, 80, 0, 80, 0, 80, 0, 80,
    0, 80, 0, 80, 0, 80, 0, 80, 0, 80, 0, 80, 0, 80, 0, 80, 0, 80, 0, 80, 0, 80, 0, 80, 0, 80, 0,
    80, 0, 80, 0, 80, 0, 80, 0, 80, 0, 80, 0, 80, 0, 80, 0, 80, 0, 80, 0, 80, 0, 80, 0, 80, 0, 80,
    0, 80, 0, 80, 0, 80, 0, 80, 0, 80, 136, 80, 0, 80, 0, 80, 0, 80, 0, 80, 0, 80, 0, 80, 0, 80,
    0, 80, 0, 80, 0, 80, 0, 80, 0, 80, 0, 80, 0, 80, 0, 80, 0, 80, 0, 80, 0, 80, 0, 80, 0, 80, 0,
    80, 0, 80, 0, 80, 0, 80, 0, 80, 0, 80, 0, 80, 0, 80, 0, 80, 0, 80, 0, 80, 0, 80, 0, 80, 0, 80,
    0, 80, 156, 78, 0, 78, 0, 78, 0, 78, 0, 78, 0, 78, 0, 78, 0, 78, 0, 78, 0, 78, 0, 78, 1, 78,
    0, 78, 0, 78, 0, 78, 0, 78, 0, 78, 0, 78, 0, 78, 0, 78, 0, 78, 0, 78, 0, 78, 0, 78, 0, 78, 0,
    78, 1, 78, 0, 78, 0, 78, 0, 78, 0, 78, 0, 78, 0, 78, 1, 78, 0, 78, 1770, 128, 0, 128, 0, 128,
    0, 128, 0, 128, 0, 128, 0, 128, 0, 128, 0, 128, 0, 128, 0, 128, 0, 128, 0, 128, 0, 128, 0,
    128, 0, 128, 0, 128, 0, 128, 0, 128, 0, 128, 0, 128, 0, 128, 0, 128, 0, 128, 0, 128, 0, 128,
    0, 128, 0, 128, 0, 128, 0, 128, 0, 128, 0, 128, 0, 128, 0, 128, 0, 128, 0, 128, 0, 128, 0,
    128, 0, 128, 0, 128, 0, 128, 0, 128, 0, 128, 0, 128, 0, 128, 0, 128, 0, 128, 0, 128, 0, 128,
    0, 128, 0, 128, 157, 64, 0, 64, 0, 64, 0, 64, 0, 64, 0, 64, 0, 64, 0, 64, 0, 64, 0, 64, 0, 64,
    0, 64, 0, 64, 0, 64, 0, 64, 0, 64, 0, 64, 0, 64, 0, 64, 0, 64, 0, 64, 0, 64, 2874, 64, 0, 64,
    0, 64, 0, 64, 0, 64, 0, 64, 0, 64, 0, 64, 0, 64, 0, 64, 0, 64, 0, 64, 0, 64, 0, 64, 0, 64, 0,
    64, 0, 64, 0, 64, 0, 64, 0, 64, 0, 64, 0, 64, 0, 64, 0, 64, 0, 64, 0, 64, 0, 64, 0, 64, 0, 64,
    0, 64, 0, 64, 0, 64, 21888, 64, 0, 64, 0, 64, 0, 64, 0, 64, 0, 64, 0, 64, 0, 64, 0, 64, 0, 64,
    0, 64, 0, 64, 0, 64, 0, 64, 0, 64, 0, 64, 0, 64, 0, 64, 0, 64, 0, 64, 0, 64, 0, 64, 0, 64, 0,
    64, 0, 64, 0, 64, 0, 64, 0, 64, 0, 64, 0, 64, 0, 64, 0, 64, 64, 54, 0, 54, 0, 54, 0, 54, 0,
    54, 0, 54, 0, 54, 0, 54, 0, 54, 0, 54, 0, 54, 0, 54, 0, 54, 0, 54, 0, 54, 0, 54, 0, 54, 0, 54,
    0, 54, 0, 54, 0, 54, 0, 54, 0, 54, 0, 54, 0, 54, 31303, 68, 0, 68, 0, 68, 0, 68, 0, 68, 0, 68,
    0, 68, 0, 68, 0, 68, 0, 68, 0, 68, 0, 68, 0, 68, 0, 68, 0, 68, 0, 68, 0, 68, 0, 68, 0, 68, 0,
    68, 0, 68, 0, 68, 0, 68, 0, 68, 0, 68, 0, 68, 0, 68, 0, 68, 0, 68, 0, 68, 0, 68, 0, 68, 0, 68,
    0, 68
  ]

/-- The pairs of `foldNumbers`, sorted by code point. -/
def foldTable : Array (Nat × Nat) := (pairs foldNumbers 0).toArray

/-- The simple case folding of a code point. -/
def fold (c : Nat) : Nat := (findPair? foldTable c).getD c

/-- For each folded form, the other code points that fold to it, sorted by the folded form. -/
def foldClasses : Array (Nat × List Nat) :=
  let byTarget := foldTable.toList.map (fun p => (p.2, p.1))
  let sorted := insertionSort (fun a b => a.1 < b.1 || (a.1 == b.1 && a.2 ≤ b.2)) byTarget
  (sorted.foldr (fun p acc =>
    match acc with
    | (t, ms) :: rest => if t == p.1 then (t, p.2 :: ms) :: rest else (p.1, [p.2]) :: acc
    | [] => [(p.1, [p.2])]) []).toArray

/-- The code points equal to `c` up to case, `c` included. -/
def orbit (c : Nat) : List Nat :=
  let f := fold c
  let others :=
    match upperBound foldClasses Prod.fst f with
    | 0 => []
    | i + 1 =>
      match foldClasses[i]? with
      | some (t, ms) => if t == f then ms else []
      | none => []
  f :: others

end SyntaxShade.Unicode
