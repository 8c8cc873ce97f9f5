/-!
# Characters of domain names

What becomes of every character beyond ASCII in a domain name.

* `validRuns` are the characters that stay: numbers that say in turns how many
  code points to pass over and how many to take, from 0x80 on.
* `mapped` are single characters that are replaced, each with its replacement.
  No replacement means that the character goes.
* `mappedRuns` are runs of characters that are replaced: the first, how many
  there are, at what distance, and the replacement of the first; the others are
  replaced by code points at the same distances.

All others are not allowed.
-/

namespace Errand.Domain.Table

def validRuns1 : List Nat :=
  [33, 7, 1, 1, 1, 2, 1, 1, 1, 2, 4, 2, 3, 1, 3, 1, 23, 1, 7, 33, 1, 1, 1, 1, 1,
    1, 1, 1, 1, 1, 1, 1, 1, 1, 1, 1, 1, 1, 1, 1, 1, 1, 1, 1, 1, 1, 1, 1, 1, 1,
    1, 1, 1, 1, 1, 1, 1, 1, 1, 1, 1, 1, 1, 1, 1, 1, 1, 1, 1, 1, 3, 1, 1, 2, 1,
    1, 1, 1, 1, 1, 3, 1, 1, 1, 1, 1, 1, 1, 2, 1, 1, 1, 1, 1, 1, 1, 1, 1, 1, 1,
    1, 1, 1, 1, 1, 1, 1, 1, 1, 1, 1, 1, 1, 1, 1, 1, 1, 1, 1, 1, 1, 1, 1, 1, 1,
    1, 1, 1, 1, 1, 1, 1, 1, 1, 2, 1, 1, 1, 1, 1, 1, 1, 2, 1, 1, 1, 2, 1, 3, 2,
    4, 1, 2, 1, 3, 3, 2, 1, 2, 1, 1, 1, 1, 1, 2, 1, 1, 2, 1, 1, 2, 1, 3, 1, 1,
    1, 2, 3, 1, 7, 10, 1, 1, 1, 1, 1, 1, 1, 1, 1, 1, 1, 1, 1, 1, 2, 1, 1, 1, 1,
    1, 1, 1, 1, 1, 1, 1, 1, 1, 1, 1, 1, 1, 2, 4, 1, 3, 1, 1, 1, 1, 1, 1, 1, 1,
    1, 1, 1, 1, 1, 1, 1, 1, 1, 1, 1, 1, 1, 1, 1, 1, 1, 1, 1, 1, 1, 1, 1, 1, 1,
    1, 1, 1, 1, 1, 1, 1, 1, 1, 1, 1, 1, 1, 1, 1, 1, 1, 1, 1, 1, 1, 1, 1, 1, 1,
    7, 2, 1, 2, 2, 1, 1, 4, 1, 1, 1, 1, 1, 1, 1, 1, 97, 9, 31, 6, 2, 5, 91, 2,
    1, 3, 9, 1, 32, 1, 1, 1, 1, 1, 1, 1, 1, 3, 3, 18, 1, 27, 35, 8, 1, 1, 1, 1,
    1, 1, 1, 1, 1, 1, 1, 1, 1, 1, 1, 1, 1, 1, 1, 1, 1, 1, 1, 1, 1, 3, 1, 2, 1,
    1, 1, 2, 2, 51, 48, 1, 1, 1, 1, 1, 1, 1, 1, 1, 1, 1, 1, 1, 1, 1, 1, 1, 1, 1,
    1, 1, 1, 1, 1, 1, 1, 1, 1, 1, 1, 1, 1, 1, 9, 1, 1, 1, 1, 1, 1, 1, 1, 1, 1,
    1, 1, 1, 1, 1, 1, 1, 1, 1, 1, 1, 1, 1, 1, 1, 1, 1, 1, 1, 1, 1, 1, 1, 1, 1,
    1, 1, 1, 1, 1, 1, 1, 1, 1, 1, 1, 1, 1, 1, 1, 1, 1, 1, 1, 2, 1, 1, 1, 1, 1,
    1, 1, 1, 1, 1, 1, 1, 2, 1, 1, 1, 1, 1, 1, 1, 1, 1, 1, 1, 1, 1, 1, 1, 1, 1,
    1, 1, 1, 1, 1, 1, 1, 1, 1, 1, 1, 1, 1, 1, 1, 1, 1, 1, 1, 1, 1, 1, 1, 1, 1,
    1, 1, 1, 1, 1, 1, 1, 1, 1, 1, 1, 1, 1, 1, 1, 1, 1, 1, 1, 1, 1, 1, 1, 1, 1,
    1, 1, 1, 1, 1, 1, 1, 1, 1, 1, 1, 1, 1, 1, 1, 1, 1, 1, 1, 1, 1, 1, 1, 1, 1,
    1, 1, 1, 1, 41, 46, 1, 3, 2, 3, 1, 55, 8, 27, 4, 6, 17, 22, 1, 88, 4, 100,
    1, 48, 2, 59, 2, 101, 14, 59, 2, 49, 2, 15, 1, 28, 2, 1, 1, 11, 5, 32, 7,
    75, 1, 117, 8, 36, 1, 8, 2, 2, 2, 22, 1, 7, 1, 1, 3, 4, 2, 9, 2, 2, 2, 4, 8,
    1, 8, 4, 2, 25, 2, 3, 1, 6, 4, 2, 2, 22, 1, 7, 1, 1, 2, 1, 2, 2, 2, 1, 1, 5,
    4, 2, 2, 3, 3, 1, 10, 1, 9, 17, 10, 3, 1, 9, 1, 3, 1, 22, 1, 7, 1, 2, 1, 5,
    2, 10, 1, 3, 1, 3, 2, 1, 15, 4, 2, 12, 7, 7, 1, 3, 1, 8, 2, 2, 2, 22, 1, 7,
    1, 2, 1, 5, 2, 9, 2, 2, 2, 3, 7, 3, 7, 5, 2, 18, 10, 2, 1, 6, 3, 3, 1, 4, 3,
    2, 1, 1, 1, 2, 3, 2, 3, 3, 3, 12, 4, 5, 3, 3, 1, 4, 2, 1, 6, 1, 14, 21, 5,
    13, 1, 3, 1, 23, 1, 16, 2, 9, 1, 3, 1, 4, 7, 2, 1, 3, 1, 2, 2, 4, 2, 10, 7,
    22, 1, 3, 1, 23, 1, 10, 1, 5, 2, 9, 1, 3, 1, 4, 7, 2, 5, 3, 1, 4, 2, 10, 1,
    3, 12, 13, 1, 3, 1, 51, 1, 3, 1, 6, 4, 16, 2, 26, 1, 3, 1, 18, 3, 24, 1, 9,
    1, 1, 2, 7, 3, 1, 4, 6, 1, 1, 1, 8, 6, 10, 2, 3, 12, 50, 1, 7, 4, 29, 37, 2,
    1, 1, 1, 5, 1, 24, 1, 1, 1, 12, 1, 10, 2, 5, 1, 1, 1, 7, 1, 10, 4, 2, 32,
    12, 1, 54, 1, 4, 1, 4, 1, 4, 1, 4, 1, 4, 1, 12, 1, 3, 4, 2, 1, 1, 5, 7, 1,
    17, 1, 4, 1, 4, 1, 4, 1, 4, 1, 4, 1, 12, 1, 3, 1, 15, 1, 13, 37, 160]

def validRuns2 : List Nat :=
  [48, 44, 1, 98, 2, 232, 1, 4, 2, 7, 1, 1, 1, 4, 2, 41, 1, 4, 2, 33, 1, 4, 2,
    7, 1, 1, 1, 4, 2, 15, 1, 57, 1, 4, 2, 67, 2, 32, 3, 26, 6, 86, 10, 640, 1,
    28, 3, 89, 7, 22, 9, 24, 9, 20, 12, 13, 1, 3, 1, 2, 12, 52, 2, 40, 2, 10, 6,
    10, 6, 11, 5, 10, 6, 89, 7, 43, 5, 70, 10, 31, 1, 12, 4, 12, 4, 1, 3, 42, 2,
    5, 11, 44, 4, 26, 6, 11, 3, 62, 2, 65, 1, 29, 2, 11, 6, 10, 6, 14, 2, 46, 2,
    12, 20, 77, 1, 166, 8, 60, 3, 15, 3, 51, 10, 1, 53, 8, 8, 43, 5, 44, 3, 1,
    11, 1, 18, 1, 28, 13, 1, 34, 37, 64, 1, 1, 1, 1, 1, 1, 1, 1, 1, 1, 1, 1, 1,
    1, 1, 1, 1, 1, 1, 1, 1, 1, 1, 1, 1, 1, 1, 1, 1, 1, 1, 1, 1, 1, 1, 1, 1, 1,
    1, 1, 1, 1, 1, 1, 1, 1, 1, 1, 1, 1, 1, 1, 1, 1, 1, 1, 1, 1, 1, 1, 1, 1, 1,
    1, 1, 1, 1, 1, 1, 1, 1, 1, 1, 1, 1, 1, 1, 1, 1, 1, 1, 1, 1, 1, 1, 1, 1, 1,
    1, 1, 1, 1, 1, 1, 1, 1, 1, 1, 1, 1, 1, 1, 1, 1, 1, 1, 1, 1, 1, 1, 1, 1, 1,
    1, 1, 1, 1, 1, 1, 1, 1, 1, 1, 1, 1, 1, 1, 1, 1, 1, 1, 1, 1, 1, 1, 1, 1, 1,
    1, 1, 1, 1, 1, 1, 1, 1, 1, 1, 1, 5, 2, 2, 1, 1, 1, 1, 1, 1, 1, 1, 1, 1, 1,
    1, 1, 1, 1, 1, 1, 1, 1, 1, 1, 1, 1, 1, 1, 1, 1, 1, 1, 1, 1, 1, 1, 1, 1, 1,
    1, 1, 1, 1, 1, 1, 1, 1, 1, 1, 1, 1, 1, 1, 1, 1, 1, 1, 1, 1, 1, 1, 1, 1, 1,
    1, 1, 1, 1, 1, 1, 1, 1, 1, 1, 1, 1, 1, 1, 1, 1, 1, 1, 1, 1, 1, 1, 1, 1, 1,
    1, 1, 1, 1, 1, 1, 1, 1, 1, 1, 1, 9, 8, 6, 10, 8, 8, 8, 8, 6, 10, 8, 8, 8, 8,
    1, 1, 1, 1, 1, 1, 1, 1, 1, 1, 1, 1, 1, 51, 2, 4, 1, 15, 1, 9, 3, 3, 2, 8, 3,
    1, 4, 14, 1, 21, 2, 2, 1, 1, 5, 1, 12, 3, 1, 8, 3, 2, 1, 2, 4, 1, 1, 1, 8,
    3, 13, 1, 7, 65, 8, 1, 25, 14, 33, 19, 1, 3, 1, 11, 1, 2, 2, 5, 2, 3, 1, 1,
    1, 1, 1, 1, 1, 4, 1, 11, 1, 6, 4, 5, 6, 48, 3, 1, 5, 1, 2, 4, 156, 2, 1, 2,
    248, 2, 255, 22, 11, 160, 1313, 1, 103, 3, 101, 1, 151, 2, 138, 48, 48, 1,
    1, 3, 2, 1, 1, 1, 1, 1, 1, 4, 1, 1, 2, 1, 6, 5, 1, 1, 1, 1, 1, 1, 1, 1, 1,
    1, 1, 1, 1, 1, 1, 1, 1, 1, 1, 1, 1, 1, 1, 1, 1, 1, 1, 1, 1, 1, 1, 1, 1, 1,
    1, 1, 1, 1, 1, 1, 1, 1, 1, 1, 1, 1, 1, 1, 1, 1, 1, 1, 1, 1, 1, 1, 1, 1, 1,
    1, 1, 1, 1, 1, 1, 1, 1, 1, 1, 1, 1, 1, 1, 1, 1, 1, 1, 1, 1, 1, 1, 1, 1, 1,
    1, 1, 1, 1, 1, 1, 1, 1, 1, 1, 1, 1, 1, 1, 8, 1, 1, 1, 4, 1, 1, 5, 45, 1, 1,
    5, 1, 2, 56, 8, 1, 14, 24, 9, 7, 1, 7, 1, 7, 1, 7, 1, 7, 1, 7, 1, 7, 1, 7,
    1, 126, 34, 26, 1, 4, 1, 83, 270, 1, 1, 51, 1, 1, 3, 5, 1, 86, 2, 2, 2, 2,
    1, 95, 6, 43, 96, 2, 14, 70, 10, 16, 72, 8, 47, 1, 384, 28813, 3, 55, 9,
    348, 21, 1, 1, 1, 1, 1, 1, 1, 1, 1, 1, 1, 1, 1, 1, 1, 1, 1, 1, 1, 1, 1, 1,
    1, 1, 1, 1, 1, 1, 1, 1, 1, 1, 1, 1, 1, 1, 1, 1, 1, 1, 1, 1, 1, 1, 19, 1, 1,
    1, 1, 1, 1, 1, 1, 1, 1, 1, 1, 1, 1, 1, 1, 1, 1, 1, 1, 1, 1, 1, 1, 1, 1, 1,
    1, 2, 90, 8, 34, 1, 1, 1, 1, 1, 1, 1, 1, 1, 1, 1, 1, 1, 3, 1, 1, 1, 1, 1, 1,
    1, 1, 1, 1, 1, 1, 1, 1, 1, 1, 1, 1, 1, 1, 1, 1, 1, 1, 1, 1, 1, 1, 1, 1, 1,
    1, 1, 1, 1, 1, 1, 1, 1, 1, 1, 1, 1, 1, 1, 1, 1, 1, 1, 1, 1, 1, 1, 1, 1, 1,
    1, 1, 1, 1, 1, 1, 1, 8, 1, 1, 1, 1, 2, 1, 1, 1, 1, 1, 1, 1, 1, 4, 1, 1, 1,
    2, 1, 1, 1, 3, 1, 1, 1, 1, 1, 1, 1, 1, 1, 1, 1, 1]

def validRuns3 : List Nat :=
  [1, 1, 1, 1, 1, 1, 1, 1, 5, 1, 5, 1, 1, 1, 1, 1, 1, 1, 1, 1, 1, 1, 1, 1, 1, 1,
    4, 1, 1, 1, 2, 1, 1, 1, 1, 1, 1, 1, 1, 1, 1, 1, 1, 1, 1, 1, 26, 2, 2, 51, 3,
    10, 6, 56, 8, 70, 8, 12, 6, 116, 11, 30, 3, 78, 1, 11, 4, 33, 1, 55, 9, 14,
    2, 10, 2, 103, 24, 28, 10, 6, 2, 6, 2, 6, 9, 7, 1, 7, 1, 44, 4, 9, 1, 2, 84,
    46, 2, 10, 6, 11172, 12, 23, 4, 49, 8722, 2, 1, 1, 1, 2, 10, 1, 1, 1, 1, 2,
    2, 3, 244, 1, 147, 33, 363, 18, 64, 2, 54, 8, 45, 3, 32, 16, 21, 2, 44, 1,
    396, 12, 1, 26, 1, 19, 1, 2, 1, 15, 2, 14, 34, 123, 5, 3, 4, 45, 3, 88, 1,
    13, 3, 1, 47, 46, 130, 29, 3, 49, 15, 28, 4, 36, 9, 30, 5, 43, 5, 30, 1, 37,
    4, 14, 82, 118, 2, 10, 46, 36, 4, 40, 8, 52, 11, 1, 39, 11, 1, 15, 1, 7, 1,
    2, 3, 52, 12, 311, 9, 22, 10, 8, 24, 1, 127, 6, 2, 1, 1, 44, 1, 2, 3, 1, 2,
    23, 1, 72, 8, 9, 48, 19, 1, 2, 5, 33, 3, 27, 5, 27, 38, 56, 4, 20, 2, 50, 1,
    2, 5, 8, 1, 3, 1, 29, 2, 3, 4, 10, 7, 9, 7, 64, 32, 39, 4, 12, 9, 54, 3, 29,
    2, 27, 5, 26, 7, 4, 12, 7, 80, 73, 119, 51, 7, 46, 8, 10, 6, 16, 25, 29, 8,
    2, 208, 31, 1, 42, 1, 3, 2, 2, 16, 6, 8, 9, 33, 46, 8, 42, 22, 26, 38, 28,
    20, 23, 9, 78, 4, 36, 9, 62, 1, 5, 13, 25, 7, 10, 6, 53, 1, 18, 8, 39, 9,
    96, 1, 20, 11, 18, 1, 47, 62, 7, 1, 1, 1, 4, 1, 15, 1, 11, 6, 59, 5, 10, 6,
    4, 1, 8, 2, 2, 2, 22, 1, 7, 1, 2, 1, 5, 1, 10, 2, 2, 2, 3, 2, 1, 6, 1, 5, 7,
    2, 7, 3, 5, 11, 10, 1, 1, 2, 1, 1, 38, 1, 10, 1, 1, 2, 1, 1, 4, 1, 10, 1, 2,
    8, 2, 29, 92, 1, 5, 30, 72, 8, 10, 166, 54, 2, 38, 34, 69, 11, 10, 6, 13,
    19, 58, 6, 10, 6, 20, 28, 27, 2, 15, 4, 23, 185, 60, 132, 51, 12, 8, 2, 1,
    2, 8, 1, 2, 1, 30, 1, 2, 2, 12, 9, 10, 70, 8, 2, 46, 2, 11, 27, 72, 8, 83,
    13, 73, 7, 10, 86, 8, 88, 34, 14, 10, 6, 9, 1, 45, 1, 14, 10, 29, 3, 32, 2,
    22, 1, 14, 73, 7, 1, 2, 1, 44, 3, 1, 1, 2, 1, 9, 8, 10, 6, 6, 1, 2, 1, 37,
    1, 2, 1, 6, 7, 10, 6, 44, 4, 10, 246, 25, 7, 17, 1, 41, 3, 29, 85, 1, 15,
    50, 13, 923, 102, 111, 1, 5, 11, 196, 2636, 99, 13, 1072, 16, 22, 10, 3995,
    5, 583, 6841, 58, 1734, 569, 7, 31, 1, 10, 4, 81, 1, 10, 6, 30, 2, 6, 10,
    70, 10, 10, 1, 7, 1, 21, 5, 19, 432, 58, 230, 59, 32, 25, 44, 75, 4, 57, 7,
    17, 64, 5, 11, 7, 9, 7382, 41, 32, 97, 115, 8701, 4, 1, 7, 1, 2, 1, 291, 15,
    1, 29, 3, 2, 1, 14, 4, 8, 396, 2308, 107, 5, 13, 3, 9, 7, 10, 2, 4, 3936,
    214, 36, 3, 3, 436, 6, 23, 15, 17, 15, 46, 2, 23, 9, 116, 60, 246, 10, 39,
    2, 53, 7, 14, 8, 64, 6, 42, 21, 70, 122, 20, 12, 20, 12, 87, 9, 25, 1159,
    652, 15, 5, 1, 15, 1104, 31, 6, 6, 213, 7, 1, 17, 2, 7, 1, 2, 1, 5, 100, 1,
    112, 45, 3, 14, 2, 10, 4, 2, 320, 31, 17, 58, 5, 1, 464, 42, 214, 43, 4, 1,
    192, 31, 1, 22, 8, 2, 224, 7, 1, 4, 1, 2, 1, 15, 1, 197, 2, 16, 75, 42, 4,
    10, 4, 2, 785, 68, 76, 61, 434, 2, 270, 44, 4, 100, 12, 15, 2, 15, 1, 15, 1,
    37, 21, 5, 31, 1, 32, 26, 3, 35, 1, 29, 56, 26, 96, 6, 154, 985, 3, 17, 3,
    13, 3, 218, 6, 12, 4, 1, 15, 12, 4, 56, 8, 10, 6, 40, 8, 30, 2, 12, 4, 2,
    14, 9, 39, 344, 8, 14, 2, 13, 3, 11, 3, 57, 1, 1, 4, 16, 2, 12, 4, 10, 7,
    147, 1, 92, 10, 1, 1029, 42720, 32, 4382, 2, 5774, 2, 7473, 15, 622, 4514,
    4939, 5, 8490]

/-- How many code points to pass over and to take, in turns. -/
def validRuns : List Nat :=
  validRuns1 ++ validRuns2 ++ validRuns3

def mapped1 : List (Nat × List Nat) :=
  [(0xa0, [0x20]), (0xa8, [0x20, 0x308]), (0xaa, [0x61]), (0xad, []),
    (0xaf, [0x20, 0x304]), (0xb4, [0x20, 0x301]), (0xb5, [0x3bc]),
    (0xb8, [0x20, 0x327]), (0xb9, [0x31]), (0xba, [0x6f]),
    (0xbc, [0x31, 0x2044, 0x34]), (0xbd, [0x31, 0x2044, 0x32]),
    (0xbe, [0x33, 0x2044, 0x34]), (0x130, [0x69, 0x307]), (0x132, [0x69, 0x6a]),
    (0x133, [0x69, 0x6a]), (0x13f, [0x6c, 0xb7]), (0x140, [0x6c, 0xb7]),
    (0x149, [0x2bc, 0x6e]), (0x178, [0xff]), (0x17f, [0x73]), (0x181, [0x253]),
    (0x186, [0x254]), (0x187, [0x188]), (0x18b, [0x18c]), (0x18e, [0x1dd]),
    (0x18f, [0x259]), (0x190, [0x25b]), (0x191, [0x192]), (0x193, [0x260]),
    (0x194, [0x263]), (0x196, [0x269]), (0x197, [0x268]), (0x198, [0x199]),
    (0x19c, [0x26f]), (0x19d, [0x272]), (0x19f, [0x275]), (0x1a6, [0x280]),
    (0x1a7, [0x1a8]), (0x1a9, [0x283]), (0x1ac, [0x1ad]), (0x1ae, [0x288]),
    (0x1af, [0x1b0]), (0x1b7, [0x292]), (0x1b8, [0x1b9]), (0x1bc, [0x1bd]),
    (0x1c4, [0x64, 0x17e]), (0x1c5, [0x64, 0x17e]), (0x1c6, [0x64, 0x17e]),
    (0x1c7, [0x6c, 0x6a]), (0x1c8, [0x6c, 0x6a]), (0x1c9, [0x6c, 0x6a]),
    (0x1ca, [0x6e, 0x6a]), (0x1cb, [0x6e, 0x6a]), (0x1cc, [0x6e, 0x6a]),
    (0x1f1, [0x64, 0x7a]), (0x1f2, [0x64, 0x7a]), (0x1f3, [0x64, 0x7a]),
    (0x1f4, [0x1f5]), (0x1f6, [0x195]), (0x1f7, [0x1bf]), (0x220, [0x19e]),
    (0x23a, [0x2c65]), (0x23b, [0x23c]), (0x23d, [0x19a]), (0x23e, [0x2c66]),
    (0x241, [0x242]), (0x243, [0x180]), (0x244, [0x289]), (0x245, [0x28c]),
    (0x2b0, [0x68]), (0x2b1, [0x266]), (0x2b2, [0x6a]), (0x2b3, [0x72]),
    (0x2b4, [0x279]), (0x2b5, [0x27b]), (0x2b6, [0x281]), (0x2b7, [0x77]),
    (0x2b8, [0x79]), (0x2d8, [0x20, 0x306]), (0x2d9, [0x20, 0x307]),
    (0x2da, [0x20, 0x30a]), (0x2db, [0x20, 0x328]), (0x2dc, [0x20, 0x303]),
    (0x2dd, [0x20, 0x30b]), (0x2e0, [0x263]), (0x2e1, [0x6c]), (0x2e2, [0x73]),
    (0x2e3, [0x78]), (0x2e4, [0x295]), (0x343, [0x313]),
    (0x344, [0x308, 0x301]), (0x345, [0x3b9]), (0x34f, []), (0x374, [0x2b9]),
    (0x376, [0x377]), (0x37a, [0x20, 0x3b9]), (0x37e, [0x3b]), (0x37f, [0x3f3]),
    (0x384, [0x20, 0x301]), (0x385, [0x20, 0x308, 0x301]), (0x386, [0x3ac]),
    (0x387, [0xb7]), (0x38c, [0x3cc]), (0x3cf, [0x3d7]), (0x3d0, [0x3b2]),
    (0x3d1, [0x3b8]), (0x3d2, [0x3c5]), (0x3d3, [0x3cd]), (0x3d4, [0x3cb]),
    (0x3d5, [0x3c6]), (0x3d6, [0x3c0]), (0x3f0, [0x3ba]), (0x3f1, [0x3c1]),
    (0x3f2, [0x3c3]), (0x3f4, [0x3b8]), (0x3f5, [0x3b5]), (0x3f7, [0x3f8]),
    (0x3f9, [0x3c3]), (0x3fa, [0x3fb]), (0x4c0, [0x4cf]),
    (0x587, [0x565, 0x582]), (0x675, [0x627, 0x674]), (0x676, [0x648, 0x674]),
    (0x677, [0x6c7, 0x674]), (0x678, [0x64a, 0x674]), (0x958, [0x915, 0x93c]),
    (0x959, [0x916, 0x93c]), (0x95a, [0x917, 0x93c]), (0x95b, [0x91c, 0x93c]),
    (0x95c, [0x921, 0x93c]), (0x95d, [0x922, 0x93c]), (0x95e, [0x92b, 0x93c]),
    (0x95f, [0x92f, 0x93c]), (0x9dc, [0x9a1, 0x9bc]), (0x9dd, [0x9a2, 0x9bc]),
    (0x9df, [0x9af, 0x9bc]), (0xa33, [0xa32, 0xa3c]), (0xa36, [0xa38, 0xa3c]),
    (0xa59, [0xa16, 0xa3c]), (0xa5a, [0xa17, 0xa3c]), (0xa5b, [0xa1c, 0xa3c]),
    (0xa5e, [0xa2b, 0xa3c]), (0xb5c, [0xb21, 0xb3c]), (0xb5d, [0xb22, 0xb3c]),
    (0xe33, [0xe4d, 0xe32]), (0xeb3, [0xecd, 0xeb2]), (0xedc, [0xeab, 0xe99]),
    (0xedd, [0xeab, 0xea1]), (0xf0c, [0xf0b]), (0xf43, [0xf42, 0xfb7]),
    (0xf4d, [0xf4c, 0xfb7]), (0xf52, [0xf51, 0xfb7]), (0xf57, [0xf56, 0xfb7]),
    (0xf5c, [0xf5b, 0xfb7]), (0xf69, [0xf40, 0xfb5]), (0xf73, [0xf71, 0xf72]),
    (0xf75, [0xf71, 0xf74]), (0xf76, [0xfb2, 0xf80]),
    (0xf77, [0xfb2, 0xf71, 0xf80]), (0xf78, [0xfb3, 0xf80]),
    (0xf79, [0xfb3, 0xf71, 0xf80]), (0xf81, [0xf71, 0xf80]),
    (0xf93, [0xf92, 0xfb7]), (0xf9d, [0xf9c, 0xfb7]), (0xfa2, [0xfa1, 0xfb7]),
    (0xfa7, [0xfa6, 0xfb7]), (0xfac, [0xfab, 0xfb7]), (0xfb9, [0xf90, 0xfb5]),
    (0x10c7, [0x2d27]), (0x10cd, [0x2d2d]), (0x10fc, [0x10dc]),
    (0x1c80, [0x432]), (0x1c81, [0x434]), (0x1c82, [0x43e]), (0x1c85, [0x442]),
    (0x1c86, [0x44a]), (0x1c87, [0x463]), (0x1c88, [0xa64b]),
    (0x1c89, [0x1c8a]), (0x1d2c, [0x61]), (0x1d2d, [0xe6]), (0x1d31, [0x65]),
    (0x1d32, [0x1dd]), (0x1d3c, [0x6f]), (0x1d3d, [0x223]), (0x1d3e, [0x70]),
    (0x1d3f, [0x72]), (0x1d42, [0x77]), (0x1d43, [0x61]), (0x1d46, [0x1d02]),
    (0x1d47, [0x62]), (0x1d4a, [0x259]), (0x1d4d, [0x67]), (0x1d4f, [0x6b]),
    (0x1d50, [0x6d]), (0x1d51, [0x14b]), (0x1d52, [0x6f]), (0x1d53, [0x254]),
    (0x1d56, [0x70]), (0x1d59, [0x1d1d]), (0x1d5a, [0x26f]), (0x1d5b, [0x76]),
    (0x1d5c, [0x1d25]), (0x1d62, [0x69]), (0x1d63, [0x72]), (0x1d68, [0x3c1]),
    (0x1d78, [0x43d]), (0x1d9b, [0x252]), (0x1d9c, [0x63]), (0x1d9d, [0x255]),
    (0x1d9e, [0xf0]), (0x1d9f, [0x25c]), (0x1da0, [0x66]), (0x1da1, [0x25f]),
    (0x1da2, [0x261]), (0x1da3, [0x265]), (0x1da7, [0x1d7b]), (0x1da8, [0x29d]),
    (0x1da9, [0x26d]), (0x1daa, [0x1d85]), (0x1dab, [0x29f]), (0x1dac, [0x271]),
    (0x1dad, [0x270]), (0x1db2, [0x278]), (0x1db5, [0x1ab]), (0x1db8, [0x1d1c]),
    (0x1dbb, [0x7a]), (0x1dbf, [0x3b8]), (0x1e9a, [0x61, 0x2be]),
    (0x1e9b, [0x1e61]), (0x1e9e, [0xdf]), (0x1f71, [0x3ac]), (0x1f73, [0x3ad]),
    (0x1f75, [0x3ae]), (0x1f77, [0x3af]), (0x1f79, [0x3cc]), (0x1f7b, [0x3cd]),
    (0x1f7d, [0x3ce]), (0x1f80, [0x1f00, 0x3b9]), (0x1f81, [0x1f01, 0x3b9]),
    (0x1f82, [0x1f02, 0x3b9]), (0x1f83, [0x1f03, 0x3b9]),
    (0x1f84, [0x1f04, 0x3b9]), (0x1f85, [0x1f05, 0x3b9]),
    (0x1f86, [0x1f06, 0x3b9]), (0x1f87, [0x1f07, 0x3b9]),
    (0x1f88, [0x1f00, 0x3b9]), (0x1f89, [0x1f01, 0x3b9]),
    (0x1f8a, [0x1f02, 0x3b9])]

def mapped2 : List (Nat × List Nat) :=
  [(0x1f8b, [0x1f03, 0x3b9]), (0x1f8c, [0x1f04, 0x3b9]),
    (0x1f8d, [0x1f05, 0x3b9]), (0x1f8e, [0x1f06, 0x3b9]),
    (0x1f8f, [0x1f07, 0x3b9]), (0x1f90, [0x1f20, 0x3b9]),
    (0x1f91, [0x1f21, 0x3b9]), (0x1f92, [0x1f22, 0x3b9]),
    (0x1f93, [0x1f23, 0x3b9]), (0x1f94, [0x1f24, 0x3b9]),
    (0x1f95, [0x1f25, 0x3b9]), (0x1f96, [0x1f26, 0x3b9]),
    (0x1f97, [0x1f27, 0x3b9]), (0x1f98, [0x1f20, 0x3b9]),
    (0x1f99, [0x1f21, 0x3b9]), (0x1f9a, [0x1f22, 0x3b9]),
    (0x1f9b, [0x1f23, 0x3b9]), (0x1f9c, [0x1f24, 0x3b9]),
    (0x1f9d, [0x1f25, 0x3b9]), (0x1f9e, [0x1f26, 0x3b9]),
    (0x1f9f, [0x1f27, 0x3b9]), (0x1fa0, [0x1f60, 0x3b9]),
    (0x1fa1, [0x1f61, 0x3b9]), (0x1fa2, [0x1f62, 0x3b9]),
    (0x1fa3, [0x1f63, 0x3b9]), (0x1fa4, [0x1f64, 0x3b9]),
    (0x1fa5, [0x1f65, 0x3b9]), (0x1fa6, [0x1f66, 0x3b9]),
    (0x1fa7, [0x1f67, 0x3b9]), (0x1fa8, [0x1f60, 0x3b9]),
    (0x1fa9, [0x1f61, 0x3b9]), (0x1faa, [0x1f62, 0x3b9]),
    (0x1fab, [0x1f63, 0x3b9]), (0x1fac, [0x1f64, 0x3b9]),
    (0x1fad, [0x1f65, 0x3b9]), (0x1fae, [0x1f66, 0x3b9]),
    (0x1faf, [0x1f67, 0x3b9]), (0x1fb2, [0x1f70, 0x3b9]),
    (0x1fb3, [0x3b1, 0x3b9]), (0x1fb4, [0x3ac, 0x3b9]),
    (0x1fb7, [0x1fb6, 0x3b9]), (0x1fba, [0x1f70]), (0x1fbb, [0x3ac]),
    (0x1fbc, [0x3b1, 0x3b9]), (0x1fbd, [0x20, 0x313]), (0x1fbe, [0x3b9]),
    (0x1fbf, [0x20, 0x313]), (0x1fc0, [0x20, 0x342]),
    (0x1fc1, [0x20, 0x308, 0x342]), (0x1fc2, [0x1f74, 0x3b9]),
    (0x1fc3, [0x3b7, 0x3b9]), (0x1fc4, [0x3ae, 0x3b9]),
    (0x1fc7, [0x1fc6, 0x3b9]), (0x1fc8, [0x1f72]), (0x1fc9, [0x3ad]),
    (0x1fca, [0x1f74]), (0x1fcb, [0x3ae]), (0x1fcc, [0x3b7, 0x3b9]),
    (0x1fcd, [0x20, 0x313, 0x300]), (0x1fce, [0x20, 0x313, 0x301]),
    (0x1fcf, [0x20, 0x313, 0x342]), (0x1fd3, [0x390]), (0x1fda, [0x1f76]),
    (0x1fdb, [0x3af]), (0x1fdd, [0x20, 0x314, 0x300]),
    (0x1fde, [0x20, 0x314, 0x301]), (0x1fdf, [0x20, 0x314, 0x342]),
    (0x1fe3, [0x3b0]), (0x1fea, [0x1f7a]), (0x1feb, [0x3cd]),
    (0x1fec, [0x1fe5]), (0x1fed, [0x20, 0x308, 0x300]),
    (0x1fee, [0x20, 0x308, 0x301]), (0x1fef, [0x60]), (0x1ff2, [0x1f7c, 0x3b9]),
    (0x1ff3, [0x3c9, 0x3b9]), (0x1ff4, [0x3ce, 0x3b9]),
    (0x1ff7, [0x1ff6, 0x3b9]), (0x1ff8, [0x1f78]), (0x1ff9, [0x3cc]),
    (0x1ffa, [0x1f7c]), (0x1ffb, [0x3ce]), (0x1ffc, [0x3c9, 0x3b9]),
    (0x1ffd, [0x20, 0x301]), (0x1ffe, [0x20, 0x314]), (0x2000, [0x20]),
    (0x2001, [0x20]), (0x2002, [0x20]), (0x2003, [0x20]), (0x2004, [0x20]),
    (0x2005, [0x20]), (0x2006, [0x20]), (0x2007, [0x20]), (0x2008, [0x20]),
    (0x2009, [0x20]), (0x200a, [0x20]), (0x200b, []), (0x2011, [0x2010]),
    (0x2017, [0x20, 0x333]), (0x202f, [0x20]), (0x2033, [0x2032, 0x2032]),
    (0x2034, [0x2032, 0x2032, 0x2032]), (0x2036, [0x2035, 0x2035]),
    (0x2037, [0x2035, 0x2035, 0x2035]), (0x203c, [0x21, 0x21]),
    (0x203e, [0x20, 0x305]), (0x2047, [0x3f, 0x3f]), (0x2048, [0x3f, 0x21]),
    (0x2049, [0x21, 0x3f]), (0x2057, [0x2032, 0x2032, 0x2032, 0x2032]),
    (0x205f, [0x20]), (0x2070, [0x30]), (0x2071, [0x69]), (0x207a, [0x2b]),
    (0x207b, [0x2212]), (0x207c, [0x3d]), (0x207f, [0x6e]), (0x208a, [0x2b]),
    (0x208b, [0x2212]), (0x208c, [0x3d]), (0x2090, [0x61]), (0x2091, [0x65]),
    (0x2092, [0x6f]), (0x2093, [0x78]), (0x2094, [0x259]), (0x2095, [0x68]),
    (0x209a, [0x70]), (0x20a8, [0x72, 0x73]), (0x2100, [0x61, 0x2f, 0x63]),
    (0x2101, [0x61, 0x2f, 0x73]), (0x2102, [0x63]), (0x2103, [0xb0, 0x63]),
    (0x2105, [0x63, 0x2f, 0x6f]), (0x2106, [0x63, 0x2f, 0x75]),
    (0x2107, [0x25b]), (0x2109, [0xb0, 0x66]), (0x210c, [0x68]),
    (0x210d, [0x68]), (0x210e, [0x68]), (0x210f, [0x127]), (0x2110, [0x69]),
    (0x2111, [0x69]), (0x2112, [0x6c]), (0x2116, [0x6e, 0x6f]),
    (0x211c, [0x72]), (0x211d, [0x72]), (0x2120, [0x73, 0x6d]),
    (0x2121, [0x74, 0x65, 0x6c]), (0x2122, [0x74, 0x6d]), (0x2124, [0x7a]),
    (0x2126, [0x3c9]), (0x2128, [0x7a]), (0x212a, [0x6b]), (0x212b, [0xe5]),
    (0x212f, [0x65]), (0x2132, [0x214e]), (0x2133, [0x6d]), (0x2134, [0x6f]),
    (0x2139, [0x69]), (0x213b, [0x66, 0x61, 0x78]), (0x213c, [0x3c0]),
    (0x213d, [0x3b3]), (0x213e, [0x3b3]), (0x213f, [0x3c0]), (0x2140, [0x2211]),
    (0x2145, [0x64]), (0x2150, [0x31, 0x2044, 0x37]),
    (0x2151, [0x31, 0x2044, 0x39]), (0x2152, [0x31, 0x2044, 0x31, 0x30]),
    (0x2153, [0x31, 0x2044, 0x33]), (0x2154, [0x32, 0x2044, 0x33]),
    (0x2155, [0x31, 0x2044, 0x35]), (0x2156, [0x32, 0x2044, 0x35]),
    (0x2157, [0x33, 0x2044, 0x35]), (0x2158, [0x34, 0x2044, 0x35]),
    (0x2159, [0x31, 0x2044, 0x36]), (0x215a, [0x35, 0x2044, 0x36]),
    (0x215b, [0x31, 0x2044, 0x38]), (0x215c, [0x33, 0x2044, 0x38]),
    (0x215d, [0x35, 0x2044, 0x38]), (0x215e, [0x37, 0x2044, 0x38]),
    (0x215f, [0x31, 0x2044]), (0x2160, [0x69]), (0x2161, [0x69, 0x69]),
    (0x2162, [0x69, 0x69, 0x69]), (0x2163, [0x69, 0x76]), (0x2164, [0x76]),
    (0x2165, [0x76, 0x69]), (0x2166, [0x76, 0x69, 0x69]),
    (0x2167, [0x76, 0x69, 0x69, 0x69]), (0x2168, [0x69, 0x78]),
    (0x2169, [0x78]), (0x216a, [0x78, 0x69]), (0x216b, [0x78, 0x69, 0x69]),
    (0x216c, [0x6c]), (0x216f, [0x6d]), (0x2170, [0x69]),
    (0x2171, [0x69, 0x69]), (0x2172, [0x69, 0x69, 0x69]),
    (0x2173, [0x69, 0x76]), (0x2174, [0x76]), (0x2175, [0x76, 0x69]),
    (0x2176, [0x76, 0x69, 0x69]), (0x2177, [0x76, 0x69, 0x69, 0x69]),
    (0x2178, [0x69, 0x78]), (0x2179, [0x78]), (0x217a, [0x78, 0x69]),
    (0x217b, [0x78, 0x69, 0x69]), (0x217c, [0x6c]), (0x217f, [0x6d]),
    (0x2183, [0x2184]), (0x2189, [0x30, 0x2044, 0x33]),
    (0x222c, [0x222b, 0x222b]), (0x222d, [0x222b, 0x222b, 0x222b]),
    (0x222f, [0x222e, 0x222e]), (0x2230, [0x222e, 0x222e, 0x222e]),
    (0x2469, [0x31, 0x30]), (0x246a, [0x31, 0x31]), (0x246b, [0x31, 0x32]),
    (0x246c, [0x31, 0x33]), (0x246d, [0x31, 0x34]), (0x246e, [0x31, 0x35]),
    (0x246f, [0x31, 0x36]), (0x2470, [0x31, 0x37]), (0x2471, [0x31, 0x38]),
    (0x2472, [0x31, 0x39]), (0x2473, [0x32, 0x30]),
    (0x2474, [0x28, 0x31, 0x29]), (0x2475, [0x28, 0x32, 0x29]),
    (0x2476, [0x28, 0x33, 0x29]), (0x2477, [0x28, 0x34, 0x29]),
    (0x2478, [0x28, 0x35, 0x29]), (0x2479, [0x28, 0x36, 0x29]),
    (0x247a, [0x28, 0x37, 0x29]), (0x247b, [0x28, 0x38, 0x29]),
    (0x247c, [0x28, 0x39, 0x29]), (0x247d, [0x28, 0x31, 0x30, 0x29]),
    (0x247e, [0x28, 0x31, 0x31, 0x29]), (0x247f, [0x28, 0x31, 0x32, 0x29]),
    (0x2480, [0x28, 0x31, 0x33, 0x29]), (0x2481, [0x28, 0x31, 0x34, 0x29]),
    (0x2482, [0x28, 0x31, 0x35, 0x29]), (0x2483, [0x28, 0x31, 0x36, 0x29]),
    (0x2484, [0x28, 0x31, 0x37, 0x29]), (0x2485, [0x28, 0x31, 0x38, 0x29]),
    (0x2486, [0x28, 0x31, 0x39, 0x29]), (0x2487, [0x28, 0x32, 0x30, 0x29]),
    (0x249c, [0x28, 0x61, 0x29]), (0x249d, [0x28, 0x62, 0x29]),
    (0x249e, [0x28, 0x63, 0x29])]

def mapped3 : List (Nat × List Nat) :=
  [(0x249f, [0x28, 0x64, 0x29]), (0x24a0, [0x28, 0x65, 0x29]),
    (0x24a1, [0x28, 0x66, 0x29]), (0x24a2, [0x28, 0x67, 0x29]),
    (0x24a3, [0x28, 0x68, 0x29]), (0x24a4, [0x28, 0x69, 0x29]),
    (0x24a5, [0x28, 0x6a, 0x29]), (0x24a6, [0x28, 0x6b, 0x29]),
    (0x24a7, [0x28, 0x6c, 0x29]), (0x24a8, [0x28, 0x6d, 0x29]),
    (0x24a9, [0x28, 0x6e, 0x29]), (0x24aa, [0x28, 0x6f, 0x29]),
    (0x24ab, [0x28, 0x70, 0x29]), (0x24ac, [0x28, 0x71, 0x29]),
    (0x24ad, [0x28, 0x72, 0x29]), (0x24ae, [0x28, 0x73, 0x29]),
    (0x24af, [0x28, 0x74, 0x29]), (0x24b0, [0x28, 0x75, 0x29]),
    (0x24b1, [0x28, 0x76, 0x29]), (0x24b2, [0x28, 0x77, 0x29]),
    (0x24b3, [0x28, 0x78, 0x29]), (0x24b4, [0x28, 0x79, 0x29]),
    (0x24b5, [0x28, 0x7a, 0x29]), (0x24ea, [0x30]),
    (0x2a0c, [0x222b, 0x222b, 0x222b, 0x222b]), (0x2a74, [0x3a, 0x3a, 0x3d]),
    (0x2a75, [0x3d, 0x3d]), (0x2a76, [0x3d, 0x3d, 0x3d]),
    (0x2adc, [0x2add, 0x338]), (0x2c60, [0x2c61]), (0x2c62, [0x26b]),
    (0x2c63, [0x1d7d]), (0x2c64, [0x27d]), (0x2c6d, [0x251]), (0x2c6e, [0x271]),
    (0x2c6f, [0x250]), (0x2c70, [0x252]), (0x2c72, [0x2c73]),
    (0x2c75, [0x2c76]), (0x2c7c, [0x6a]), (0x2c7d, [0x76]), (0x2cf2, [0x2cf3]),
    (0x2d6f, [0x2d61]), (0x2e9f, [0x6bcd]), (0x2ef3, [0x9f9f]),
    (0x2f00, [0x4e00]), (0x2f01, [0x4e28]), (0x2f02, [0x4e36]),
    (0x2f03, [0x4e3f]), (0x2f04, [0x4e59]), (0x2f05, [0x4e85]),
    (0x2f06, [0x4e8c]), (0x2f07, [0x4ea0]), (0x2f08, [0x4eba]),
    (0x2f09, [0x513f]), (0x2f0a, [0x5165]), (0x2f0b, [0x516b]),
    (0x2f0c, [0x5182]), (0x2f0d, [0x5196]), (0x2f0e, [0x51ab]),
    (0x2f0f, [0x51e0]), (0x2f10, [0x51f5]), (0x2f11, [0x5200]),
    (0x2f12, [0x529b]), (0x2f13, [0x52f9]), (0x2f14, [0x5315]),
    (0x2f15, [0x531a]), (0x2f16, [0x5338]), (0x2f17, [0x5341]),
    (0x2f18, [0x535c]), (0x2f19, [0x5369]), (0x2f1a, [0x5382]),
    (0x2f1b, [0x53b6]), (0x2f1c, [0x53c8]), (0x2f1d, [0x53e3]),
    (0x2f1e, [0x56d7]), (0x2f1f, [0x571f]), (0x2f20, [0x58eb]),
    (0x2f21, [0x5902]), (0x2f22, [0x590a]), (0x2f23, [0x5915]),
    (0x2f24, [0x5927]), (0x2f25, [0x5973]), (0x2f26, [0x5b50]),
    (0x2f27, [0x5b80]), (0x2f28, [0x5bf8]), (0x2f29, [0x5c0f]),
    (0x2f2a, [0x5c22]), (0x2f2b, [0x5c38]), (0x2f2c, [0x5c6e]),
    (0x2f2d, [0x5c71]), (0x2f2e, [0x5ddb]), (0x2f2f, [0x5de5]),
    (0x2f30, [0x5df1]), (0x2f31, [0x5dfe]), (0x2f32, [0x5e72]),
    (0x2f33, [0x5e7a]), (0x2f34, [0x5e7f]), (0x2f35, [0x5ef4]),
    (0x2f36, [0x5efe]), (0x2f37, [0x5f0b]), (0x2f38, [0x5f13]),
    (0x2f39, [0x5f50]), (0x2f3a, [0x5f61]), (0x2f3b, [0x5f73]),
    (0x2f3c, [0x5fc3]), (0x2f3d, [0x6208]), (0x2f3e, [0x6236]),
    (0x2f3f, [0x624b]), (0x2f40, [0x652f]), (0x2f41, [0x6534]),
    (0x2f42, [0x6587]), (0x2f43, [0x6597]), (0x2f44, [0x65a4]),
    (0x2f45, [0x65b9]), (0x2f46, [0x65e0]), (0x2f47, [0x65e5]),
    (0x2f48, [0x66f0]), (0x2f49, [0x6708]), (0x2f4a, [0x6728]),
    (0x2f4b, [0x6b20]), (0x2f4c, [0x6b62]), (0x2f4d, [0x6b79]),
    (0x2f4e, [0x6bb3]), (0x2f4f, [0x6bcb]), (0x2f50, [0x6bd4]),
    (0x2f51, [0x6bdb]), (0x2f52, [0x6c0f]), (0x2f53, [0x6c14]),
    (0x2f54, [0x6c34]), (0x2f55, [0x706b]), (0x2f56, [0x722a]),
    (0x2f57, [0x7236]), (0x2f58, [0x723b]), (0x2f59, [0x723f]),
    (0x2f5a, [0x7247]), (0x2f5b, [0x7259]), (0x2f5c, [0x725b]),
    (0x2f5d, [0x72ac]), (0x2f5e, [0x7384]), (0x2f5f, [0x7389]),
    (0x2f60, [0x74dc]), (0x2f61, [0x74e6]), (0x2f62, [0x7518]),
    (0x2f63, [0x751f]), (0x2f64, [0x7528]), (0x2f65, [0x7530]),
    (0x2f66, [0x758b]), (0x2f67, [0x7592]), (0x2f68, [0x7676]),
    (0x2f69, [0x767d]), (0x2f6a, [0x76ae]), (0x2f6b, [0x76bf]),
    (0x2f6c, [0x76ee]), (0x2f6d, [0x77db]), (0x2f6e, [0x77e2]),
    (0x2f6f, [0x77f3]), (0x2f70, [0x793a]), (0x2f71, [0x79b8]),
    (0x2f72, [0x79be]), (0x2f73, [0x7a74]), (0x2f74, [0x7acb]),
    (0x2f75, [0x7af9]), (0x2f76, [0x7c73]), (0x2f77, [0x7cf8]),
    (0x2f78, [0x7f36]), (0x2f79, [0x7f51]), (0x2f7a, [0x7f8a]),
    (0x2f7b, [0x7fbd]), (0x2f7c, [0x8001]), (0x2f7d, [0x800c]),
    (0x2f7e, [0x8012]), (0x2f7f, [0x8033]), (0x2f80, [0x807f]),
    (0x2f81, [0x8089]), (0x2f82, [0x81e3]), (0x2f83, [0x81ea]),
    (0x2f84, [0x81f3]), (0x2f85, [0x81fc]), (0x2f86, [0x820c]),
    (0x2f87, [0x821b]), (0x2f88, [0x821f]), (0x2f89, [0x826e]),
    (0x2f8a, [0x8272]), (0x2f8b, [0x8278]), (0x2f8c, [0x864d]),
    (0x2f8d, [0x866b]), (0x2f8e, [0x8840]), (0x2f8f, [0x884c]),
    (0x2f90, [0x8863]), (0x2f91, [0x897e]), (0x2f92, [0x898b]),
    (0x2f93, [0x89d2]), (0x2f94, [0x8a00]), (0x2f95, [0x8c37]),
    (0x2f96, [0x8c46]), (0x2f97, [0x8c55]), (0x2f98, [0x8c78]),
    (0x2f99, [0x8c9d]), (0x2f9a, [0x8d64]), (0x2f9b, [0x8d70]),
    (0x2f9c, [0x8db3]), (0x2f9d, [0x8eab]), (0x2f9e, [0x8eca]),
    (0x2f9f, [0x8f9b]), (0x2fa0, [0x8fb0]), (0x2fa1, [0x8fb5]),
    (0x2fa2, [0x9091]), (0x2fa3, [0x9149]), (0x2fa4, [0x91c6]),
    (0x2fa5, [0x91cc]), (0x2fa6, [0x91d1]), (0x2fa7, [0x9577]),
    (0x2fa8, [0x9580]), (0x2fa9, [0x961c]), (0x2faa, [0x96b6]),
    (0x2fab, [0x96b9]), (0x2fac, [0x96e8]), (0x2fad, [0x9751]),
    (0x2fae, [0x975e]), (0x2faf, [0x9762]), (0x2fb0, [0x9769]),
    (0x2fb1, [0x97cb]), (0x2fb2, [0x97ed]), (0x2fb3, [0x97f3]),
    (0x2fb4, [0x9801]), (0x2fb5, [0x98a8]), (0x2fb6, [0x98db]),
    (0x2fb7, [0x98df]), (0x2fb8, [0x9996]), (0x2fb9, [0x9999]),
    (0x2fba, [0x99ac]), (0x2fbb, [0x9aa8]), (0x2fbc, [0x9ad8]),
    (0x2fbd, [0x9adf]), (0x2fbe, [0x9b25]), (0x2fbf, [0x9b2f]),
    (0x2fc0, [0x9b32]), (0x2fc1, [0x9b3c]), (0x2fc2, [0x9b5a]),
    (0x2fc3, [0x9ce5]), (0x2fc4, [0x9e75]), (0x2fc5, [0x9e7f]),
    (0x2fc6, [0x9ea5]), (0x2fc7, [0x9ebb]), (0x2fc8, [0x9ec3]),
    (0x2fc9, [0x9ecd]), (0x2fca, [0x9ed1]), (0x2fcb, [0x9ef9]),
    (0x2fcc, [0x9efd])]

def mapped4 : List (Nat × List Nat) :=
  [(0x2fcd, [0x9f0e]), (0x2fce, [0x9f13]), (0x2fcf, [0x9f20]),
    (0x2fd0, [0x9f3b]), (0x2fd1, [0x9f4a]), (0x2fd2, [0x9f52]),
    (0x2fd3, [0x9f8d]), (0x2fd4, [0x9f9c]), (0x2fd5, [0x9fa0]),
    (0x3000, [0x20]), (0x3002, [0x2e]), (0x3036, [0x3012]), (0x3038, [0x5341]),
    (0x309b, [0x20, 0x3099]), (0x309c, [0x20, 0x309a]),
    (0x309f, [0x3088, 0x308a]), (0x30ff, [0x30b3, 0x30c8]), (0x3133, [0x11aa]),
    (0x3134, [0x1102]), (0x3140, [0x111a]), (0x3144, [0x1121]), (0x3164, []),
    (0x3169, [0x11cc]), (0x316a, [0x11ce]), (0x316b, [0x11d3]),
    (0x316c, [0x11d7]), (0x316d, [0x11d9]), (0x316e, [0x111c]),
    (0x316f, [0x11dd]), (0x3170, [0x11df]), (0x3173, [0x1120]),
    (0x3176, [0x1127]), (0x3177, [0x1129]), (0x317d, [0x1132]),
    (0x317e, [0x1136]), (0x317f, [0x1140]), (0x3180, [0x1147]),
    (0x3181, [0x114c]), (0x3189, [0x1188]), (0x318c, [0x1194]),
    (0x318d, [0x119e]), (0x318e, [0x11a1]), (0x3192, [0x4e00]),
    (0x3193, [0x4e8c]), (0x3194, [0x4e09]), (0x3195, [0x56db]),
    (0x3196, [0x4e0a]), (0x3197, [0x4e2d]), (0x3198, [0x4e0b]),
    (0x3199, [0x7532]), (0x319a, [0x4e59]), (0x319b, [0x4e19]),
    (0x319c, [0x4e01]), (0x319d, [0x5929]), (0x319e, [0x5730]),
    (0x319f, [0x4eba]), (0x3200, [0x28, 0x1100, 0x29]),
    (0x3201, [0x28, 0x1102, 0x29]), (0x3202, [0x28, 0x1103, 0x29]),
    (0x3203, [0x28, 0x1105, 0x29]), (0x3204, [0x28, 0x1106, 0x29]),
    (0x3205, [0x28, 0x1107, 0x29]), (0x3206, [0x28, 0x1109, 0x29]),
    (0x3207, [0x28, 0x110b, 0x29]), (0x3208, [0x28, 0x110c, 0x29]),
    (0x3209, [0x28, 0x110e, 0x29]), (0x320a, [0x28, 0x110f, 0x29]),
    (0x320b, [0x28, 0x1110, 0x29]), (0x320c, [0x28, 0x1111, 0x29]),
    (0x320d, [0x28, 0x1112, 0x29]), (0x320e, [0x28, 0xac00, 0x29]),
    (0x320f, [0x28, 0xb098, 0x29]), (0x3210, [0x28, 0xb2e4, 0x29]),
    (0x3211, [0x28, 0xb77c, 0x29]), (0x3212, [0x28, 0xb9c8, 0x29]),
    (0x3213, [0x28, 0xbc14, 0x29]), (0x3214, [0x28, 0xc0ac, 0x29]),
    (0x3215, [0x28, 0xc544, 0x29]), (0x3216, [0x28, 0xc790, 0x29]),
    (0x3217, [0x28, 0xcc28, 0x29]), (0x3218, [0x28, 0xce74, 0x29]),
    (0x3219, [0x28, 0xd0c0, 0x29]), (0x321a, [0x28, 0xd30c, 0x29]),
    (0x321b, [0x28, 0xd558, 0x29]), (0x321c, [0x28, 0xc8fc, 0x29]),
    (0x321d, [0x28, 0xc624, 0xc804, 0x29]),
    (0x321e, [0x28, 0xc624, 0xd6c4, 0x29]), (0x3220, [0x28, 0x4e00, 0x29]),
    (0x3221, [0x28, 0x4e8c, 0x29]), (0x3222, [0x28, 0x4e09, 0x29]),
    (0x3223, [0x28, 0x56db, 0x29]), (0x3224, [0x28, 0x4e94, 0x29]),
    (0x3225, [0x28, 0x516d, 0x29]), (0x3226, [0x28, 0x4e03, 0x29]),
    (0x3227, [0x28, 0x516b, 0x29]), (0x3228, [0x28, 0x4e5d, 0x29]),
    (0x3229, [0x28, 0x5341, 0x29]), (0x322a, [0x28, 0x6708, 0x29]),
    (0x322b, [0x28, 0x706b, 0x29]), (0x322c, [0x28, 0x6c34, 0x29]),
    (0x322d, [0x28, 0x6728, 0x29]), (0x322e, [0x28, 0x91d1, 0x29]),
    (0x322f, [0x28, 0x571f, 0x29]), (0x3230, [0x28, 0x65e5, 0x29]),
    (0x3231, [0x28, 0x682a, 0x29]), (0x3232, [0x28, 0x6709, 0x29]),
    (0x3233, [0x28, 0x793e, 0x29]), (0x3234, [0x28, 0x540d, 0x29]),
    (0x3235, [0x28, 0x7279, 0x29]), (0x3236, [0x28, 0x8ca1, 0x29]),
    (0x3237, [0x28, 0x795d, 0x29]), (0x3238, [0x28, 0x52b4, 0x29]),
    (0x3239, [0x28, 0x4ee3, 0x29]), (0x323a, [0x28, 0x547c, 0x29]),
    (0x323b, [0x28, 0x5b66, 0x29]), (0x323c, [0x28, 0x76e3, 0x29]),
    (0x323d, [0x28, 0x4f01, 0x29]), (0x323e, [0x28, 0x8cc7, 0x29]),
    (0x323f, [0x28, 0x5354, 0x29]), (0x3240, [0x28, 0x796d, 0x29]),
    (0x3241, [0x28, 0x4f11, 0x29]), (0x3242, [0x28, 0x81ea, 0x29]),
    (0x3243, [0x28, 0x81f3, 0x29]), (0x3244, [0x554f]), (0x3245, [0x5e7c]),
    (0x3246, [0x6587]), (0x3247, [0x7b8f]), (0x3250, [0x70, 0x74, 0x65]),
    (0x3251, [0x32, 0x31]), (0x3252, [0x32, 0x32]), (0x3253, [0x32, 0x33]),
    (0x3254, [0x32, 0x34]), (0x3255, [0x32, 0x35]), (0x3256, [0x32, 0x36]),
    (0x3257, [0x32, 0x37]), (0x3258, [0x32, 0x38]), (0x3259, [0x32, 0x39]),
    (0x325a, [0x33, 0x30]), (0x325b, [0x33, 0x31]), (0x325c, [0x33, 0x32]),
    (0x325d, [0x33, 0x33]), (0x325e, [0x33, 0x34]), (0x325f, [0x33, 0x35]),
    (0x3260, [0x1100]), (0x3266, [0x1109]), (0x326e, [0xac00]),
    (0x326f, [0xb098]), (0x3270, [0xb2e4]), (0x3271, [0xb77c]),
    (0x3272, [0xb9c8]), (0x3273, [0xbc14]), (0x3274, [0xc0ac]),
    (0x3275, [0xc544]), (0x3276, [0xc790]), (0x3277, [0xcc28]),
    (0x3278, [0xce74]), (0x3279, [0xd0c0]), (0x327a, [0xd30c]),
    (0x327b, [0xd558]), (0x327c, [0xcc38, 0xace0]), (0x327d, [0xc8fc, 0xc758]),
    (0x327e, [0xc6b0]), (0x3280, [0x4e00]), (0x3281, [0x4e8c]),
    (0x3282, [0x4e09]), (0x3283, [0x56db]), (0x3284, [0x4e94]),
    (0x3285, [0x516d]), (0x3286, [0x4e03]), (0x3287, [0x516b]),
    (0x3288, [0x4e5d]), (0x3289, [0x5341]), (0x328a, [0x6708]),
    (0x328b, [0x706b]), (0x328c, [0x6c34]), (0x328d, [0x6728]),
    (0x328e, [0x91d1]), (0x328f, [0x571f]), (0x3290, [0x65e5]),
    (0x3291, [0x682a]), (0x3292, [0x6709]), (0x3293, [0x793e]),
    (0x3294, [0x540d]), (0x3295, [0x7279]), (0x3296, [0x8ca1]),
    (0x3297, [0x795d]), (0x3298, [0x52b4]), (0x3299, [0x79d8]),
    (0x329a, [0x7537]), (0x329b, [0x5973]), (0x329c, [0x9069]),
    (0x329d, [0x512a]), (0x329e, [0x5370]), (0x329f, [0x6ce8]),
    (0x32a0, [0x9805]), (0x32a1, [0x4f11]), (0x32a2, [0x5199]),
    (0x32a3, [0x6b63]), (0x32a4, [0x4e0a]), (0x32a5, [0x4e2d]),
    (0x32a6, [0x4e0b]), (0x32a7, [0x5de6]), (0x32a8, [0x53f3]),
    (0x32a9, [0x533b]), (0x32aa, [0x5b97]), (0x32ab, [0x5b66]),
    (0x32ac, [0x76e3]), (0x32ad, [0x4f01]), (0x32ae, [0x8cc7]),
    (0x32af, [0x5354]), (0x32b0, [0x591c]), (0x32b1, [0x33, 0x36]),
    (0x32b2, [0x33, 0x37]), (0x32b3, [0x33, 0x38]), (0x32b4, [0x33, 0x39]),
    (0x32b5, [0x34, 0x30]), (0x32b6, [0x34, 0x31]), (0x32b7, [0x34, 0x32]),
    (0x32b8, [0x34, 0x33]), (0x32b9, [0x34, 0x34]), (0x32ba, [0x34, 0x35]),
    (0x32bb, [0x34, 0x36]), (0x32bc, [0x34, 0x37]), (0x32bd, [0x34, 0x38]),
    (0x32be, [0x34, 0x39]), (0x32bf, [0x35, 0x30]), (0x32c0, [0x31, 0x6708]),
    (0x32c1, [0x32, 0x6708]), (0x32c2, [0x33, 0x6708]),
    (0x32c3, [0x34, 0x6708]), (0x32c4, [0x35, 0x6708]),
    (0x32c5, [0x36, 0x6708]), (0x32c6, [0x37, 0x6708]),
    (0x32c7, [0x38, 0x6708]), (0x32c8, [0x39, 0x6708]),
    (0x32c9, [0x31, 0x30, 0x6708]), (0x32ca, [0x31, 0x31, 0x6708]),
    (0x32cb, [0x31, 0x32, 0x6708]), (0x32cc, [0x68, 0x67]),
    (0x32cd, [0x65, 0x72, 0x67]), (0x32ce, [0x65, 0x76]),
    (0x32cf, [0x6c, 0x74, 0x64]), (0x32d0, [0x30a2]), (0x32d1, [0x30a4]),
    (0x32d2, [0x30a6]), (0x32d3, [0x30a8]), (0x32d6, [0x30ad]),
    (0x32d7, [0x30af]), (0x32d8, [0x30b1]), (0x32d9, [0x30b3])]

def mapped5 : List (Nat × List Nat) :=
  [(0x32da, [0x30b5]), (0x32db, [0x30b7]), (0x32dc, [0x30b9]),
    (0x32dd, [0x30bb]), (0x32de, [0x30bd]), (0x32df, [0x30bf]),
    (0x32e0, [0x30c1]), (0x32e1, [0x30c4]), (0x32e2, [0x30c6]),
    (0x32e3, [0x30c8]), (0x32ea, [0x30d2]), (0x32eb, [0x30d5]),
    (0x32ec, [0x30d8]), (0x32ed, [0x30db]), (0x32f3, [0x30e4]),
    (0x32f4, [0x30e6]), (0x32ff, [0x4ee4, 0x548c]),
    (0x3300, [0x30a2, 0x30d1, 0x30fc, 0x30c8]),
    (0x3301, [0x30a2, 0x30eb, 0x30d5, 0x30a1]),
    (0x3302, [0x30a2, 0x30f3, 0x30da, 0x30a2]),
    (0x3303, [0x30a2, 0x30fc, 0x30eb]),
    (0x3304, [0x30a4, 0x30cb, 0x30f3, 0x30b0]),
    (0x3305, [0x30a4, 0x30f3, 0x30c1]), (0x3306, [0x30a6, 0x30a9, 0x30f3]),
    (0x3307, [0x30a8, 0x30b9, 0x30af, 0x30fc, 0x30c9]),
    (0x3308, [0x30a8, 0x30fc, 0x30ab, 0x30fc]),
    (0x3309, [0x30aa, 0x30f3, 0x30b9]), (0x330a, [0x30aa, 0x30fc, 0x30e0]),
    (0x330b, [0x30ab, 0x30a4, 0x30ea]),
    (0x330c, [0x30ab, 0x30e9, 0x30c3, 0x30c8]),
    (0x330d, [0x30ab, 0x30ed, 0x30ea, 0x30fc]),
    (0x330e, [0x30ac, 0x30ed, 0x30f3]), (0x330f, [0x30ac, 0x30f3, 0x30de]),
    (0x3310, [0x30ae, 0x30ac]), (0x3311, [0x30ae, 0x30cb, 0x30fc]),
    (0x3312, [0x30ad, 0x30e5, 0x30ea, 0x30fc]),
    (0x3313, [0x30ae, 0x30eb, 0x30c0, 0x30fc]), (0x3314, [0x30ad, 0x30ed]),
    (0x3315, [0x30ad, 0x30ed, 0x30b0, 0x30e9, 0x30e0]),
    (0x3316, [0x30ad, 0x30ed, 0x30e1, 0x30fc, 0x30c8, 0x30eb]),
    (0x3317, [0x30ad, 0x30ed, 0x30ef, 0x30c3, 0x30c8]),
    (0x3318, [0x30b0, 0x30e9, 0x30e0]),
    (0x3319, [0x30b0, 0x30e9, 0x30e0, 0x30c8, 0x30f3]),
    (0x331a, [0x30af, 0x30eb, 0x30bc, 0x30a4, 0x30ed]),
    (0x331b, [0x30af, 0x30ed, 0x30fc, 0x30cd]),
    (0x331c, [0x30b1, 0x30fc, 0x30b9]), (0x331d, [0x30b3, 0x30eb, 0x30ca]),
    (0x331e, [0x30b3, 0x30fc, 0x30dd]),
    (0x331f, [0x30b5, 0x30a4, 0x30af, 0x30eb]),
    (0x3320, [0x30b5, 0x30f3, 0x30c1, 0x30fc, 0x30e0]),
    (0x3321, [0x30b7, 0x30ea, 0x30f3, 0x30b0]),
    (0x3322, [0x30bb, 0x30f3, 0x30c1]), (0x3323, [0x30bb, 0x30f3, 0x30c8]),
    (0x3324, [0x30c0, 0x30fc, 0x30b9]), (0x3325, [0x30c7, 0x30b7]),
    (0x3326, [0x30c9, 0x30eb]), (0x3327, [0x30c8, 0x30f3]),
    (0x3328, [0x30ca, 0x30ce]), (0x3329, [0x30ce, 0x30c3, 0x30c8]),
    (0x332a, [0x30cf, 0x30a4, 0x30c4]),
    (0x332b, [0x30d1, 0x30fc, 0x30bb, 0x30f3, 0x30c8]),
    (0x332c, [0x30d1, 0x30fc, 0x30c4]),
    (0x332d, [0x30d0, 0x30fc, 0x30ec, 0x30eb]),
    (0x332e, [0x30d4, 0x30a2, 0x30b9, 0x30c8, 0x30eb]),
    (0x332f, [0x30d4, 0x30af, 0x30eb]), (0x3330, [0x30d4, 0x30b3]),
    (0x3331, [0x30d3, 0x30eb]),
    (0x3332, [0x30d5, 0x30a1, 0x30e9, 0x30c3, 0x30c9]),
    (0x3333, [0x30d5, 0x30a3, 0x30fc, 0x30c8]),
    (0x3334, [0x30d6, 0x30c3, 0x30b7, 0x30a7, 0x30eb]),
    (0x3335, [0x30d5, 0x30e9, 0x30f3]),
    (0x3336, [0x30d8, 0x30af, 0x30bf, 0x30fc, 0x30eb]),
    (0x3337, [0x30da, 0x30bd]), (0x3338, [0x30da, 0x30cb, 0x30d2]),
    (0x3339, [0x30d8, 0x30eb, 0x30c4]), (0x333a, [0x30da, 0x30f3, 0x30b9]),
    (0x333b, [0x30da, 0x30fc, 0x30b8]), (0x333c, [0x30d9, 0x30fc, 0x30bf]),
    (0x333d, [0x30dd, 0x30a4, 0x30f3, 0x30c8]),
    (0x333e, [0x30dc, 0x30eb, 0x30c8]), (0x333f, [0x30db, 0x30f3]),
    (0x3340, [0x30dd, 0x30f3, 0x30c9]), (0x3341, [0x30db, 0x30fc, 0x30eb]),
    (0x3342, [0x30db, 0x30fc, 0x30f3]),
    (0x3343, [0x30de, 0x30a4, 0x30af, 0x30ed]),
    (0x3344, [0x30de, 0x30a4, 0x30eb]), (0x3345, [0x30de, 0x30c3, 0x30cf]),
    (0x3346, [0x30de, 0x30eb, 0x30af]),
    (0x3347, [0x30de, 0x30f3, 0x30b7, 0x30e7, 0x30f3]),
    (0x3348, [0x30df, 0x30af, 0x30ed, 0x30f3]), (0x3349, [0x30df, 0x30ea]),
    (0x334a, [0x30df, 0x30ea, 0x30d0, 0x30fc, 0x30eb]),
    (0x334b, [0x30e1, 0x30ac]), (0x334c, [0x30e1, 0x30ac, 0x30c8, 0x30f3]),
    (0x334d, [0x30e1, 0x30fc, 0x30c8, 0x30eb]),
    (0x334e, [0x30e4, 0x30fc, 0x30c9]), (0x334f, [0x30e4, 0x30fc, 0x30eb]),
    (0x3350, [0x30e6, 0x30a2, 0x30f3]),
    (0x3351, [0x30ea, 0x30c3, 0x30c8, 0x30eb]), (0x3352, [0x30ea, 0x30e9]),
    (0x3353, [0x30eb, 0x30d4, 0x30fc]),
    (0x3354, [0x30eb, 0x30fc, 0x30d6, 0x30eb]), (0x3355, [0x30ec, 0x30e0]),
    (0x3356, [0x30ec, 0x30f3, 0x30c8, 0x30b2, 0x30f3]),
    (0x3357, [0x30ef, 0x30c3, 0x30c8]), (0x3358, [0x30, 0x70b9]),
    (0x3359, [0x31, 0x70b9]), (0x335a, [0x32, 0x70b9]),
    (0x335b, [0x33, 0x70b9]), (0x335c, [0x34, 0x70b9]),
    (0x335d, [0x35, 0x70b9]), (0x335e, [0x36, 0x70b9]),
    (0x335f, [0x37, 0x70b9]), (0x3360, [0x38, 0x70b9]),
    (0x3361, [0x39, 0x70b9]), (0x3362, [0x31, 0x30, 0x70b9]),
    (0x3363, [0x31, 0x31, 0x70b9]), (0x3364, [0x31, 0x32, 0x70b9]),
    (0x3365, [0x31, 0x33, 0x70b9]), (0x3366, [0x31, 0x34, 0x70b9]),
    (0x3367, [0x31, 0x35, 0x70b9]), (0x3368, [0x31, 0x36, 0x70b9]),
    (0x3369, [0x31, 0x37, 0x70b9]), (0x336a, [0x31, 0x38, 0x70b9]),
    (0x336b, [0x31, 0x39, 0x70b9]), (0x336c, [0x32, 0x30, 0x70b9]),
    (0x336d, [0x32, 0x31, 0x70b9]), (0x336e, [0x32, 0x32, 0x70b9]),
    (0x336f, [0x32, 0x33, 0x70b9]), (0x3370, [0x32, 0x34, 0x70b9]),
    (0x3371, [0x68, 0x70, 0x61]), (0x3372, [0x64, 0x61]),
    (0x3373, [0x61, 0x75]), (0x3374, [0x62, 0x61, 0x72]),
    (0x3375, [0x6f, 0x76]), (0x3376, [0x70, 0x63]), (0x3377, [0x64, 0x6d]),
    (0x3378, [0x64, 0x6d, 0x32]), (0x3379, [0x64, 0x6d, 0x33]),
    (0x337a, [0x69, 0x75]), (0x337b, [0x5e73, 0x6210]),
    (0x337c, [0x662d, 0x548c]), (0x337d, [0x5927, 0x6b63]),
    (0x337e, [0x660e, 0x6cbb]), (0x337f, [0x682a, 0x5f0f, 0x4f1a, 0x793e]),
    (0x3380, [0x70, 0x61]), (0x3381, [0x6e, 0x61]), (0x3382, [0x3bc, 0x61]),
    (0x3383, [0x6d, 0x61]), (0x3384, [0x6b, 0x61]), (0x3385, [0x6b, 0x62]),
    (0x3386, [0x6d, 0x62]), (0x3387, [0x67, 0x62]),
    (0x3388, [0x63, 0x61, 0x6c]), (0x3389, [0x6b, 0x63, 0x61, 0x6c]),
    (0x338a, [0x70, 0x66]), (0x338b, [0x6e, 0x66]), (0x338c, [0x3bc, 0x66]),
    (0x338d, [0x3bc, 0x67]), (0x338e, [0x6d, 0x67]), (0x338f, [0x6b, 0x67]),
    (0x3390, [0x68, 0x7a]), (0x3391, [0x6b, 0x68, 0x7a]),
    (0x3392, [0x6d, 0x68, 0x7a]), (0x3393, [0x67, 0x68, 0x7a]),
    (0x3394, [0x74, 0x68, 0x7a]), (0x3395, [0x3bc, 0x6c]),
    (0x3396, [0x6d, 0x6c]), (0x3397, [0x64, 0x6c]), (0x3398, [0x6b, 0x6c]),
    (0x3399, [0x66, 0x6d]), (0x339a, [0x6e, 0x6d]), (0x339b, [0x3bc, 0x6d]),
    (0x339c, [0x6d, 0x6d]), (0x339d, [0x63, 0x6d]), (0x339e, [0x6b, 0x6d]),
    (0x339f, [0x6d, 0x6d, 0x32]), (0x33a0, [0x63, 0x6d, 0x32]),
    (0x33a1, [0x6d, 0x32]), (0x33a2, [0x6b, 0x6d, 0x32]),
    (0x33a3, [0x6d, 0x6d, 0x33]), (0x33a4, [0x63, 0x6d, 0x33]),
    (0x33a5, [0x6d, 0x33]), (0x33a6, [0x6b, 0x6d, 0x33]),
    (0x33a7, [0x6d, 0x2215, 0x73]), (0x33a8, [0x6d, 0x2215, 0x73, 0x32]),
    (0x33a9, [0x70, 0x61]), (0x33aa, [0x6b, 0x70, 0x61]),
    (0x33ab, [0x6d, 0x70, 0x61]), (0x33ac, [0x67, 0x70, 0x61]),
    (0x33ad, [0x72, 0x61, 0x64]), (0x33ae, [0x72, 0x61, 0x64, 0x2215, 0x73]),
    (0x33af, [0x72, 0x61, 0x64, 0x2215, 0x73, 0x32]), (0x33b0, [0x70, 0x73]),
    (0x33b1, [0x6e, 0x73]), (0x33b2, [0x3bc, 0x73]), (0x33b3, [0x6d, 0x73]),
    (0x33b4, [0x70, 0x76]), (0x33b5, [0x6e, 0x76]), (0x33b6, [0x3bc, 0x76]),
    (0x33b7, [0x6d, 0x76]), (0x33b8, [0x6b, 0x76]), (0x33b9, [0x6d, 0x76]),
    (0x33ba, [0x70, 0x77]), (0x33bb, [0x6e, 0x77]), (0x33bc, [0x3bc, 0x77]),
    (0x33bd, [0x6d, 0x77]), (0x33be, [0x6b, 0x77]), (0x33bf, [0x6d, 0x77]),
    (0x33c0, [0x6b, 0x3c9]), (0x33c1, [0x6d, 0x3c9]), (0x33c3, [0x62, 0x71]),
    (0x33c4, [0x63, 0x63]), (0x33c5, [0x63, 0x64]),
    (0x33c6, [0x63, 0x2215, 0x6b, 0x67]), (0x33c8, [0x64, 0x62]),
    (0x33c9, [0x67, 0x79]), (0x33ca, [0x68, 0x61]), (0x33cb, [0x68, 0x70]),
    (0x33cc, [0x69, 0x6e]), (0x33cd, [0x6b, 0x6b]), (0x33ce, [0x6b, 0x6d]),
    (0x33cf, [0x6b, 0x74]), (0x33d0, [0x6c, 0x6d]), (0x33d1, [0x6c, 0x6e]),
    (0x33d2, [0x6c, 0x6f, 0x67]), (0x33d3, [0x6c, 0x78]),
    (0x33d4, [0x6d, 0x62]), (0x33d5, [0x6d, 0x69, 0x6c]),
    (0x33d6, [0x6d, 0x6f, 0x6c]), (0x33d7, [0x70, 0x68]),
    (0x33d9, [0x70, 0x70, 0x6d]), (0x33da, [0x70, 0x72]),
    (0x33db, [0x73, 0x72]), (0x33dc, [0x73, 0x76]), (0x33dd, [0x77, 0x62]),
    (0x33de, [0x76, 0x2215, 0x6d]), (0x33df, [0x61, 0x2215, 0x6d]),
    (0x33e0, [0x31, 0x65e5]), (0x33e1, [0x32, 0x65e5]),
    (0x33e2, [0x33, 0x65e5]), (0x33e3, [0x34, 0x65e5]),
    (0x33e4, [0x35, 0x65e5]), (0x33e5, [0x36, 0x65e5]),
    (0x33e6, [0x37, 0x65e5]), (0x33e7, [0x38, 0x65e5]),
    (0x33e8, [0x39, 0x65e5]), (0x33e9, [0x31, 0x30, 0x65e5]),
    (0x33ea, [0x31, 0x31, 0x65e5]), (0x33eb, [0x31, 0x32, 0x65e5])]

def mapped6 : List (Nat × List Nat) :=
  [(0x33ec, [0x31, 0x33, 0x65e5]), (0x33ed, [0x31, 0x34, 0x65e5]),
    (0x33ee, [0x31, 0x35, 0x65e5]), (0x33ef, [0x31, 0x36, 0x65e5]),
    (0x33f0, [0x31, 0x37, 0x65e5]), (0x33f1, [0x31, 0x38, 0x65e5]),
    (0x33f2, [0x31, 0x39, 0x65e5]), (0x33f3, [0x32, 0x30, 0x65e5]),
    (0x33f4, [0x32, 0x31, 0x65e5]), (0x33f5, [0x32, 0x32, 0x65e5]),
    (0x33f6, [0x32, 0x33, 0x65e5]), (0x33f7, [0x32, 0x34, 0x65e5]),
    (0x33f8, [0x32, 0x35, 0x65e5]), (0x33f9, [0x32, 0x36, 0x65e5]),
    (0x33fa, [0x32, 0x37, 0x65e5]), (0x33fb, [0x32, 0x38, 0x65e5]),
    (0x33fc, [0x32, 0x39, 0x65e5]), (0x33fd, [0x33, 0x30, 0x65e5]),
    (0x33fe, [0x33, 0x31, 0x65e5]), (0x33ff, [0x67, 0x61, 0x6c]),
    (0xa69c, [0x44a]), (0xa69d, [0x44c]), (0xa770, [0xa76f]),
    (0xa77d, [0x1d79]), (0xa78b, [0xa78c]), (0xa78d, [0x265]),
    (0xa7aa, [0x266]), (0xa7ab, [0x25c]), (0xa7ac, [0x261]), (0xa7ad, [0x26c]),
    (0xa7ae, [0x26a]), (0xa7b0, [0x29e]), (0xa7b1, [0x287]), (0xa7b2, [0x29d]),
    (0xa7b3, [0xab53]), (0xa7c4, [0xa794]), (0xa7c5, [0x282]),
    (0xa7c6, [0x1d8e]), (0xa7cb, [0x264]), (0xa7dc, [0x19b]), (0xa7f1, [0x73]),
    (0xa7f2, [0x63]), (0xa7f3, [0x66]), (0xa7f4, [0x71]), (0xa7f5, [0xa7f6]),
    (0xa7f8, [0x127]), (0xa7f9, [0x153]), (0xab5c, [0xa727]),
    (0xab5d, [0xab37]), (0xab5e, [0x26b]), (0xab5f, [0xab52]),
    (0xab69, [0x28d]), (0xf900, [0x8c48]), (0xf901, [0x66f4]),
    (0xf902, [0x8eca]), (0xf903, [0x8cc8]), (0xf904, [0x6ed1]),
    (0xf905, [0x4e32]), (0xf906, [0x53e5]), (0xf907, [0x9f9c]),
    (0xf908, [0x9f9c]), (0xf909, [0x5951]), (0xf90a, [0x91d1]),
    (0xf90b, [0x5587]), (0xf90c, [0x5948]), (0xf90d, [0x61f6]),
    (0xf90e, [0x7669]), (0xf90f, [0x7f85]), (0xf910, [0x863f]),
    (0xf911, [0x87ba]), (0xf912, [0x88f8]), (0xf913, [0x908f]),
    (0xf914, [0x6a02]), (0xf915, [0x6d1b]), (0xf916, [0x70d9]),
    (0xf917, [0x73de]), (0xf918, [0x843d]), (0xf919, [0x916a]),
    (0xf91a, [0x99f1]), (0xf91b, [0x4e82]), (0xf91c, [0x5375]),
    (0xf91d, [0x6b04]), (0xf91e, [0x721b]), (0xf91f, [0x862d]),
    (0xf920, [0x9e1e]), (0xf921, [0x5d50]), (0xf922, [0x6feb]),
    (0xf923, [0x85cd]), (0xf924, [0x8964]), (0xf925, [0x62c9]),
    (0xf926, [0x81d8]), (0xf927, [0x881f]), (0xf928, [0x5eca]),
    (0xf929, [0x6717]), (0xf92a, [0x6d6a]), (0xf92b, [0x72fc]),
    (0xf92c, [0x90ce]), (0xf92d, [0x4f86]), (0xf92e, [0x51b7]),
    (0xf92f, [0x52de]), (0xf930, [0x64c4]), (0xf931, [0x6ad3]),
    (0xf932, [0x7210]), (0xf933, [0x76e7]), (0xf934, [0x8001]),
    (0xf935, [0x8606]), (0xf936, [0x865c]), (0xf937, [0x8def]),
    (0xf938, [0x9732]), (0xf939, [0x9b6f]), (0xf93a, [0x9dfa]),
    (0xf93b, [0x788c]), (0xf93c, [0x797f]), (0xf93d, [0x7da0]),
    (0xf93e, [0x83c9]), (0xf93f, [0x9304]), (0xf940, [0x9e7f]),
    (0xf941, [0x8ad6]), (0xf942, [0x58df]), (0xf943, [0x5f04]),
    (0xf944, [0x7c60]), (0xf945, [0x807e]), (0xf946, [0x7262]),
    (0xf947, [0x78ca]), (0xf948, [0x8cc2]), (0xf949, [0x96f7]),
    (0xf94a, [0x58d8]), (0xf94b, [0x5c62]), (0xf94c, [0x6a13]),
    (0xf94d, [0x6dda]), (0xf94e, [0x6f0f]), (0xf94f, [0x7d2f]),
    (0xf950, [0x7e37]), (0xf951, [0x964b]), (0xf952, [0x52d2]),
    (0xf953, [0x808b]), (0xf954, [0x51dc]), (0xf955, [0x51cc]),
    (0xf956, [0x7a1c]), (0xf957, [0x7dbe]), (0xf958, [0x83f1]),
    (0xf959, [0x9675]), (0xf95a, [0x8b80]), (0xf95b, [0x62cf]),
    (0xf95c, [0x6a02]), (0xf95d, [0x8afe]), (0xf95e, [0x4e39]),
    (0xf95f, [0x5be7]), (0xf960, [0x6012]), (0xf961, [0x7387]),
    (0xf962, [0x7570]), (0xf963, [0x5317]), (0xf964, [0x78fb]),
    (0xf965, [0x4fbf]), (0xf966, [0x5fa9]), (0xf967, [0x4e0d]),
    (0xf968, [0x6ccc]), (0xf969, [0x6578]), (0xf96a, [0x7d22]),
    (0xf96b, [0x53c3]), (0xf96c, [0x585e]), (0xf96d, [0x7701]),
    (0xf96e, [0x8449]), (0xf96f, [0x8aaa]), (0xf970, [0x6bba]),
    (0xf971, [0x8fb0]), (0xf972, [0x6c88]), (0xf973, [0x62fe]),
    (0xf974, [0x82e5]), (0xf975, [0x63a0]), (0xf976, [0x7565]),
    (0xf977, [0x4eae]), (0xf978, [0x5169]), (0xf979, [0x51c9]),
    (0xf97a, [0x6881]), (0xf97b, [0x7ce7]), (0xf97c, [0x826f]),
    (0xf97d, [0x8ad2]), (0xf97e, [0x91cf]), (0xf97f, [0x52f5]),
    (0xf980, [0x5442]), (0xf981, [0x5973]), (0xf982, [0x5eec]),
    (0xf983, [0x65c5]), (0xf984, [0x6ffe]), (0xf985, [0x792a]),
    (0xf986, [0x95ad]), (0xf987, [0x9a6a]), (0xf988, [0x9e97]),
    (0xf989, [0x9ece]), (0xf98a, [0x529b]), (0xf98b, [0x66c6]),
    (0xf98c, [0x6b77]), (0xf98d, [0x8f62]), (0xf98e, [0x5e74]),
    (0xf98f, [0x6190]), (0xf990, [0x6200]), (0xf991, [0x649a]),
    (0xf992, [0x6f23]), (0xf993, [0x7149]), (0xf994, [0x7489]),
    (0xf995, [0x79ca]), (0xf996, [0x7df4]), (0xf997, [0x806f]),
    (0xf998, [0x8f26]), (0xf999, [0x84ee]), (0xf99a, [0x9023]),
    (0xf99b, [0x934a]), (0xf99c, [0x5217]), (0xf99d, [0x52a3]),
    (0xf99e, [0x54bd]), (0xf99f, [0x70c8]), (0xf9a0, [0x88c2]),
    (0xf9a1, [0x8aaa]), (0xf9a2, [0x5ec9]), (0xf9a3, [0x5ff5]),
    (0xf9a4, [0x637b]), (0xf9a5, [0x6bae]), (0xf9a6, [0x7c3e]),
    (0xf9a7, [0x7375]), (0xf9a8, [0x4ee4]), (0xf9a9, [0x56f9]),
    (0xf9aa, [0x5be7]), (0xf9ab, [0x5dba]), (0xf9ac, [0x601c]),
    (0xf9ad, [0x73b2]), (0xf9ae, [0x7469]), (0xf9af, [0x7f9a]),
    (0xf9b0, [0x8046]), (0xf9b1, [0x9234]), (0xf9b2, [0x96f6]),
    (0xf9b3, [0x9748]), (0xf9b4, [0x9818]), (0xf9b5, [0x4f8b]),
    (0xf9b6, [0x79ae]), (0xf9b7, [0x91b4]), (0xf9b8, [0x96b8]),
    (0xf9b9, [0x60e1]), (0xf9ba, [0x4e86]), (0xf9bb, [0x50da]),
    (0xf9bc, [0x5bee]), (0xf9bd, [0x5c3f]), (0xf9be, [0x6599]),
    (0xf9bf, [0x6a02]), (0xf9c0, [0x71ce]), (0xf9c1, [0x7642]),
    (0xf9c2, [0x84fc]), (0xf9c3, [0x907c]), (0xf9c4, [0x9f8d]),
    (0xf9c5, [0x6688])]

def mapped7 : List (Nat × List Nat) :=
  [(0xf9c6, [0x962e]), (0xf9c7, [0x5289]), (0xf9c8, [0x677b]),
    (0xf9c9, [0x67f3]), (0xf9ca, [0x6d41]), (0xf9cb, [0x6e9c]),
    (0xf9cc, [0x7409]), (0xf9cd, [0x7559]), (0xf9ce, [0x786b]),
    (0xf9cf, [0x7d10]), (0xf9d0, [0x985e]), (0xf9d1, [0x516d]),
    (0xf9d2, [0x622e]), (0xf9d3, [0x9678]), (0xf9d4, [0x502b]),
    (0xf9d5, [0x5d19]), (0xf9d6, [0x6dea]), (0xf9d7, [0x8f2a]),
    (0xf9d8, [0x5f8b]), (0xf9d9, [0x6144]), (0xf9da, [0x6817]),
    (0xf9db, [0x7387]), (0xf9dc, [0x9686]), (0xf9dd, [0x5229]),
    (0xf9de, [0x540f]), (0xf9df, [0x5c65]), (0xf9e0, [0x6613]),
    (0xf9e1, [0x674e]), (0xf9e2, [0x68a8]), (0xf9e3, [0x6ce5]),
    (0xf9e4, [0x7406]), (0xf9e5, [0x75e2]), (0xf9e6, [0x7f79]),
    (0xf9e7, [0x88cf]), (0xf9e8, [0x88e1]), (0xf9e9, [0x91cc]),
    (0xf9ea, [0x96e2]), (0xf9eb, [0x533f]), (0xf9ec, [0x6eba]),
    (0xf9ed, [0x541d]), (0xf9ee, [0x71d0]), (0xf9ef, [0x7498]),
    (0xf9f0, [0x85fa]), (0xf9f1, [0x96a3]), (0xf9f2, [0x9c57]),
    (0xf9f3, [0x9e9f]), (0xf9f4, [0x6797]), (0xf9f5, [0x6dcb]),
    (0xf9f6, [0x81e8]), (0xf9f7, [0x7acb]), (0xf9f8, [0x7b20]),
    (0xf9f9, [0x7c92]), (0xf9fa, [0x72c0]), (0xf9fb, [0x7099]),
    (0xf9fc, [0x8b58]), (0xf9fd, [0x4ec0]), (0xf9fe, [0x8336]),
    (0xf9ff, [0x523a]), (0xfa00, [0x5207]), (0xfa01, [0x5ea6]),
    (0xfa02, [0x62d3]), (0xfa03, [0x7cd6]), (0xfa04, [0x5b85]),
    (0xfa05, [0x6d1e]), (0xfa06, [0x66b4]), (0xfa07, [0x8f3b]),
    (0xfa08, [0x884c]), (0xfa09, [0x964d]), (0xfa0a, [0x898b]),
    (0xfa0b, [0x5ed3]), (0xfa0c, [0x5140]), (0xfa0d, [0x55c0]),
    (0xfa10, [0x585a]), (0xfa12, [0x6674]), (0xfa15, [0x51de]),
    (0xfa16, [0x732a]), (0xfa17, [0x76ca]), (0xfa18, [0x793c]),
    (0xfa19, [0x795e]), (0xfa1a, [0x7965]), (0xfa1b, [0x798f]),
    (0xfa1c, [0x9756]), (0xfa1d, [0x7cbe]), (0xfa1e, [0x7fbd]),
    (0xfa20, [0x8612]), (0xfa22, [0x8af8]), (0xfa25, [0x9038]),
    (0xfa26, [0x90fd]), (0xfa2a, [0x98ef]), (0xfa2b, [0x98fc]),
    (0xfa2c, [0x9928]), (0xfa2d, [0x9db4]), (0xfa2e, [0x90de]),
    (0xfa2f, [0x96b7]), (0xfa30, [0x4fae]), (0xfa31, [0x50e7]),
    (0xfa32, [0x514d]), (0xfa33, [0x52c9]), (0xfa34, [0x52e4]),
    (0xfa35, [0x5351]), (0xfa36, [0x559d]), (0xfa37, [0x5606]),
    (0xfa38, [0x5668]), (0xfa39, [0x5840]), (0xfa3a, [0x58a8]),
    (0xfa3b, [0x5c64]), (0xfa3c, [0x5c6e]), (0xfa3d, [0x6094]),
    (0xfa3e, [0x6168]), (0xfa3f, [0x618e]), (0xfa40, [0x61f2]),
    (0xfa41, [0x654f]), (0xfa42, [0x65e2]), (0xfa43, [0x6691]),
    (0xfa44, [0x6885]), (0xfa45, [0x6d77]), (0xfa46, [0x6e1a]),
    (0xfa47, [0x6f22]), (0xfa48, [0x716e]), (0xfa49, [0x722b]),
    (0xfa4a, [0x7422]), (0xfa4b, [0x7891]), (0xfa4c, [0x793e]),
    (0xfa4d, [0x7949]), (0xfa4e, [0x7948]), (0xfa4f, [0x7950]),
    (0xfa50, [0x7956]), (0xfa51, [0x795d]), (0xfa54, [0x7a40]),
    (0xfa55, [0x7a81]), (0xfa56, [0x7bc0]), (0xfa57, [0x7df4]),
    (0xfa58, [0x7e09]), (0xfa59, [0x7e41]), (0xfa5a, [0x7f72]),
    (0xfa5b, [0x8005]), (0xfa5c, [0x81ed]), (0xfa5d, [0x8279]),
    (0xfa5e, [0x8279]), (0xfa5f, [0x8457]), (0xfa60, [0x8910]),
    (0xfa61, [0x8996]), (0xfa62, [0x8b01]), (0xfa63, [0x8b39]),
    (0xfa64, [0x8cd3]), (0xfa65, [0x8d08]), (0xfa66, [0x8fb6]),
    (0xfa67, [0x9038]), (0xfa68, [0x96e3]), (0xfa69, [0x97ff]),
    (0xfa6a, [0x983b]), (0xfa6b, [0x6075]), (0xfa6c, [0x242ee]),
    (0xfa6d, [0x8218]), (0xfa70, [0x4e26]), (0xfa71, [0x51b5]),
    (0xfa72, [0x5168]), (0xfa73, [0x4f80]), (0xfa74, [0x5145]),
    (0xfa75, [0x5180]), (0xfa76, [0x52c7]), (0xfa77, [0x52fa]),
    (0xfa78, [0x559d]), (0xfa79, [0x5555]), (0xfa7a, [0x5599]),
    (0xfa7b, [0x55e2]), (0xfa7c, [0x585a]), (0xfa7d, [0x58b3]),
    (0xfa7e, [0x5944]), (0xfa7f, [0x5954]), (0xfa80, [0x5a62]),
    (0xfa81, [0x5b28]), (0xfa82, [0x5ed2]), (0xfa83, [0x5ed9]),
    (0xfa84, [0x5f69]), (0xfa85, [0x5fad]), (0xfa86, [0x60d8]),
    (0xfa87, [0x614e]), (0xfa88, [0x6108]), (0xfa89, [0x618e]),
    (0xfa8a, [0x6160]), (0xfa8b, [0x61f2]), (0xfa8c, [0x6234]),
    (0xfa8d, [0x63c4]), (0xfa8e, [0x641c]), (0xfa8f, [0x6452]),
    (0xfa90, [0x6556]), (0xfa91, [0x6674]), (0xfa92, [0x6717]),
    (0xfa93, [0x671b]), (0xfa94, [0x6756]), (0xfa95, [0x6b79]),
    (0xfa96, [0x6bba]), (0xfa97, [0x6d41]), (0xfa98, [0x6edb]),
    (0xfa99, [0x6ecb]), (0xfa9a, [0x6f22]), (0xfa9b, [0x701e]),
    (0xfa9c, [0x716e]), (0xfa9d, [0x77a7]), (0xfa9e, [0x7235]),
    (0xfa9f, [0x72af]), (0xfaa0, [0x732a]), (0xfaa1, [0x7471]),
    (0xfaa2, [0x7506]), (0xfaa3, [0x753b]), (0xfaa4, [0x761d]),
    (0xfaa5, [0x761f]), (0xfaa6, [0x76ca]), (0xfaa7, [0x76db]),
    (0xfaa8, [0x76f4]), (0xfaa9, [0x774a]), (0xfaaa, [0x7740]),
    (0xfaab, [0x78cc]), (0xfaac, [0x7ab1]), (0xfaad, [0x7bc0]),
    (0xfaae, [0x7c7b]), (0xfaaf, [0x7d5b]), (0xfab0, [0x7df4]),
    (0xfab1, [0x7f3e]), (0xfab2, [0x8005]), (0xfab3, [0x8352]),
    (0xfab4, [0x83ef]), (0xfab5, [0x8779]), (0xfab6, [0x8941]),
    (0xfab7, [0x8986]), (0xfab8, [0x8996]), (0xfab9, [0x8abf]),
    (0xfaba, [0x8af8]), (0xfabb, [0x8acb]), (0xfabc, [0x8b01]),
    (0xfabd, [0x8afe]), (0xfabe, [0x8aed]), (0xfabf, [0x8b39]),
    (0xfac0, [0x8b8a]), (0xfac1, [0x8d08]), (0xfac2, [0x8f38]),
    (0xfac3, [0x9072]), (0xfac4, [0x9199]), (0xfac5, [0x9276]),
    (0xfac6, [0x967c]), (0xfac7, [0x96e3]), (0xfac8, [0x9756]),
    (0xfac9, [0x97db]), (0xfaca, [0x97ff]), (0xfacb, [0x980b]),
    (0xfacc, [0x983b]), (0xfacd, [0x9b12]), (0xface, [0x9f9c]),
    (0xfacf, [0x2284a])]

def mapped8 : List (Nat × List Nat) :=
  [(0xfad0, [0x22844]), (0xfad1, [0x233d5]), (0xfad2, [0x3b9d]),
    (0xfad3, [0x4018]), (0xfad4, [0x4039]), (0xfad5, [0x25249]),
    (0xfad6, [0x25cd0]), (0xfad7, [0x27ed3]), (0xfad8, [0x9f43]),
    (0xfad9, [0x9f8e]), (0xfb00, [0x66, 0x66]), (0xfb01, [0x66, 0x69]),
    (0xfb02, [0x66, 0x6c]), (0xfb03, [0x66, 0x66, 0x69]),
    (0xfb04, [0x66, 0x66, 0x6c]), (0xfb05, [0x73, 0x74]),
    (0xfb06, [0x73, 0x74]), (0xfb13, [0x574, 0x576]), (0xfb14, [0x574, 0x565]),
    (0xfb15, [0x574, 0x56b]), (0xfb16, [0x57e, 0x576]),
    (0xfb17, [0x574, 0x56d]), (0xfb1d, [0x5d9, 0x5b4]),
    (0xfb1f, [0x5f2, 0x5b7]), (0xfb20, [0x5e2]), (0xfb21, [0x5d0]),
    (0xfb27, [0x5e8]), (0xfb28, [0x5ea]), (0xfb29, [0x2b]),
    (0xfb2a, [0x5e9, 0x5c1]), (0xfb2b, [0x5e9, 0x5c2]),
    (0xfb2c, [0x5e9, 0x5bc, 0x5c1]), (0xfb2d, [0x5e9, 0x5bc, 0x5c2]),
    (0xfb2e, [0x5d0, 0x5b7]), (0xfb2f, [0x5d0, 0x5b8]),
    (0xfb30, [0x5d0, 0x5bc]), (0xfb31, [0x5d1, 0x5bc]),
    (0xfb32, [0x5d2, 0x5bc]), (0xfb33, [0x5d3, 0x5bc]),
    (0xfb34, [0x5d4, 0x5bc]), (0xfb35, [0x5d5, 0x5bc]),
    (0xfb36, [0x5d6, 0x5bc]), (0xfb38, [0x5d8, 0x5bc]),
    (0xfb39, [0x5d9, 0x5bc]), (0xfb3a, [0x5da, 0x5bc]),
    (0xfb3b, [0x5db, 0x5bc]), (0xfb3c, [0x5dc, 0x5bc]),
    (0xfb3e, [0x5de, 0x5bc]), (0xfb40, [0x5e0, 0x5bc]),
    (0xfb41, [0x5e1, 0x5bc]), (0xfb43, [0x5e3, 0x5bc]),
    (0xfb44, [0x5e4, 0x5bc]), (0xfb46, [0x5e6, 0x5bc]),
    (0xfb47, [0x5e7, 0x5bc]), (0xfb48, [0x5e8, 0x5bc]),
    (0xfb49, [0x5e9, 0x5bc]), (0xfb4a, [0x5ea, 0x5bc]),
    (0xfb4b, [0x5d5, 0x5b9]), (0xfb4c, [0x5d1, 0x5bf]),
    (0xfb4d, [0x5db, 0x5bf]), (0xfb4e, [0x5e4, 0x5bf]),
    (0xfb4f, [0x5d0, 0x5dc]), (0xfb50, [0x671]), (0xfb51, [0x671]),
    (0xfb52, [0x67b]), (0xfb53, [0x67b]), (0xfb54, [0x67b]), (0xfb55, [0x67b]),
    (0xfb56, [0x67e]), (0xfb57, [0x67e]), (0xfb58, [0x67e]), (0xfb59, [0x67e]),
    (0xfb5a, [0x680]), (0xfb5b, [0x680]), (0xfb5c, [0x680]), (0xfb5d, [0x680]),
    (0xfb5e, [0x67a]), (0xfb5f, [0x67a]), (0xfb60, [0x67a]), (0xfb61, [0x67a]),
    (0xfb62, [0x67f]), (0xfb63, [0x67f]), (0xfb64, [0x67f]), (0xfb65, [0x67f]),
    (0xfb66, [0x679]), (0xfb67, [0x679]), (0xfb68, [0x679]), (0xfb69, [0x679]),
    (0xfb6a, [0x6a4]), (0xfb6b, [0x6a4]), (0xfb6c, [0x6a4]), (0xfb6d, [0x6a4]),
    (0xfb6e, [0x6a6]), (0xfb6f, [0x6a6]), (0xfb70, [0x6a6]), (0xfb71, [0x6a6]),
    (0xfb72, [0x684]), (0xfb73, [0x684]), (0xfb74, [0x684]), (0xfb75, [0x684]),
    (0xfb76, [0x683]), (0xfb77, [0x683]), (0xfb78, [0x683]), (0xfb79, [0x683]),
    (0xfb7a, [0x686]), (0xfb7b, [0x686]), (0xfb7c, [0x686]), (0xfb7f, [0x687]),
    (0xfb80, [0x687]), (0xfb81, [0x687]), (0xfb82, [0x68d]), (0xfb83, [0x68d]),
    (0xfb84, [0x68c]), (0xfb85, [0x68c]), (0xfb86, [0x68e]), (0xfb87, [0x68e]),
    (0xfb88, [0x688]), (0xfb89, [0x688]), (0xfb8a, [0x698]), (0xfb8b, [0x698]),
    (0xfb8c, [0x691]), (0xfb8d, [0x691]), (0xfb8e, [0x6a9]), (0xfb8f, [0x6a9]),
    (0xfb90, [0x6a9]), (0xfb91, [0x6a9]), (0xfb92, [0x6af]), (0xfb93, [0x6af]),
    (0xfb94, [0x6af]), (0xfb95, [0x6af]), (0xfb96, [0x6b3]), (0xfb97, [0x6b3]),
    (0xfb98, [0x6b3]), (0xfb99, [0x6b3]), (0xfb9a, [0x6b1]), (0xfb9b, [0x6b1]),
    (0xfb9c, [0x6b1]), (0xfb9d, [0x6b1]), (0xfb9e, [0x6ba]), (0xfba1, [0x6bb]),
    (0xfba2, [0x6bb]), (0xfba3, [0x6bb]), (0xfba4, [0x6c0]), (0xfba7, [0x6c1]),
    (0xfba8, [0x6c1]), (0xfba9, [0x6c1]), (0xfbaa, [0x6be]), (0xfbab, [0x6be]),
    (0xfbac, [0x6be]), (0xfbad, [0x6be]), (0xfbae, [0x6d2]), (0xfbb1, [0x6d3]),
    (0xfbd3, [0x6ad]), (0xfbd4, [0x6ad]), (0xfbd5, [0x6ad]), (0xfbd6, [0x6ad]),
    (0xfbd7, [0x6c7]), (0xfbd8, [0x6c7]), (0xfbd9, [0x6c6]), (0xfbda, [0x6c6]),
    (0xfbdb, [0x6c8]), (0xfbdc, [0x6c8]), (0xfbdd, [0x6c7, 0x674]),
    (0xfbde, [0x6cb]), (0xfbdf, [0x6cb]), (0xfbe0, [0x6c5]), (0xfbe1, [0x6c5]),
    (0xfbe2, [0x6c9]), (0xfbe3, [0x6c9]), (0xfbe4, [0x6d0]), (0xfbe5, [0x6d0]),
    (0xfbe6, [0x6d0]), (0xfbe7, [0x6d0]), (0xfbe8, [0x649]), (0xfbe9, [0x649]),
    (0xfbea, [0x626, 0x627]), (0xfbeb, [0x626, 0x627]),
    (0xfbec, [0x626, 0x6d5]), (0xfbed, [0x626, 0x6d5]),
    (0xfbee, [0x626, 0x648]), (0xfbef, [0x626, 0x648]),
    (0xfbf0, [0x626, 0x6c7]), (0xfbf1, [0x626, 0x6c7]),
    (0xfbf2, [0x626, 0x6c6]), (0xfbf3, [0x626, 0x6c6]),
    (0xfbf4, [0x626, 0x6c8]), (0xfbf5, [0x626, 0x6c8]),
    (0xfbf6, [0x626, 0x6d0]), (0xfbf7, [0x626, 0x6d0]),
    (0xfbf8, [0x626, 0x6d0]), (0xfbf9, [0x626, 0x649]),
    (0xfbfa, [0x626, 0x649]), (0xfbfb, [0x626, 0x649]), (0xfbfc, [0x6cc]),
    (0xfbfd, [0x6cc]), (0xfbfe, [0x6cc]), (0xfbff, [0x6cc]),
    (0xfc00, [0x626, 0x62c]), (0xfc01, [0x626, 0x62d]),
    (0xfc02, [0x626, 0x645]), (0xfc03, [0x626, 0x649]),
    (0xfc04, [0x626, 0x64a]), (0xfc05, [0x628, 0x62c]),
    (0xfc06, [0x628, 0x62d]), (0xfc07, [0x628, 0x62e]),
    (0xfc08, [0x628, 0x645]), (0xfc09, [0x628, 0x649]),
    (0xfc0a, [0x628, 0x64a]), (0xfc0b, [0x62a, 0x62c]),
    (0xfc0c, [0x62a, 0x62d]), (0xfc0d, [0x62a, 0x62e]),
    (0xfc0e, [0x62a, 0x645]), (0xfc0f, [0x62a, 0x649]),
    (0xfc10, [0x62a, 0x64a]), (0xfc11, [0x62b, 0x62c]),
    (0xfc12, [0x62b, 0x645]), (0xfc13, [0x62b, 0x649]),
    (0xfc14, [0x62b, 0x64a]), (0xfc15, [0x62c, 0x62d]),
    (0xfc16, [0x62c, 0x645]), (0xfc17, [0x62d, 0x62c]),
    (0xfc18, [0x62d, 0x645]), (0xfc19, [0x62e, 0x62c]),
    (0xfc1a, [0x62e, 0x62d]), (0xfc1b, [0x62e, 0x645]),
    (0xfc1c, [0x633, 0x62c]), (0xfc1d, [0x633, 0x62d]),
    (0xfc1e, [0x633, 0x62e]), (0xfc1f, [0x633, 0x645]),
    (0xfc20, [0x635, 0x62d]), (0xfc21, [0x635, 0x645]),
    (0xfc22, [0x636, 0x62c]), (0xfc23, [0x636, 0x62d]),
    (0xfc24, [0x636, 0x62e]), (0xfc25, [0x636, 0x645]),
    (0xfc26, [0x637, 0x62d]), (0xfc27, [0x637, 0x645]),
    (0xfc28, [0x638, 0x645]), (0xfc29, [0x639, 0x62c]),
    (0xfc2a, [0x639, 0x645]), (0xfc2b, [0x63a, 0x62c]),
    (0xfc2c, [0x63a, 0x645]), (0xfc2d, [0x641, 0x62c]),
    (0xfc2e, [0x641, 0x62d]), (0xfc2f, [0x641, 0x62e]),
    (0xfc30, [0x641, 0x645]), (0xfc31, [0x641, 0x649]),
    (0xfc32, [0x641, 0x64a]), (0xfc33, [0x642, 0x62d]),
    (0xfc34, [0x642, 0x645])]

def mapped9 : List (Nat × List Nat) :=
  [(0xfc35, [0x642, 0x649]), (0xfc36, [0x642, 0x64a]), (0xfc37, [0x643, 0x627]),
    (0xfc38, [0x643, 0x62c]), (0xfc39, [0x643, 0x62d]),
    (0xfc3a, [0x643, 0x62e]), (0xfc3b, [0x643, 0x644]),
    (0xfc3c, [0x643, 0x645]), (0xfc3d, [0x643, 0x649]),
    (0xfc3e, [0x643, 0x64a]), (0xfc3f, [0x644, 0x62c]),
    (0xfc40, [0x644, 0x62d]), (0xfc41, [0x644, 0x62e]),
    (0xfc42, [0x644, 0x645]), (0xfc43, [0x644, 0x649]),
    (0xfc44, [0x644, 0x64a]), (0xfc45, [0x645, 0x62c]),
    (0xfc46, [0x645, 0x62d]), (0xfc47, [0x645, 0x62e]),
    (0xfc48, [0x645, 0x645]), (0xfc49, [0x645, 0x649]),
    (0xfc4a, [0x645, 0x64a]), (0xfc4b, [0x646, 0x62c]),
    (0xfc4c, [0x646, 0x62d]), (0xfc4d, [0x646, 0x62e]),
    (0xfc4e, [0x646, 0x645]), (0xfc4f, [0x646, 0x649]),
    (0xfc50, [0x646, 0x64a]), (0xfc51, [0x647, 0x62c]),
    (0xfc52, [0x647, 0x645]), (0xfc53, [0x647, 0x649]),
    (0xfc54, [0x647, 0x64a]), (0xfc55, [0x64a, 0x62c]),
    (0xfc56, [0x64a, 0x62d]), (0xfc57, [0x64a, 0x62e]),
    (0xfc58, [0x64a, 0x645]), (0xfc59, [0x64a, 0x649]),
    (0xfc5a, [0x64a, 0x64a]), (0xfc5b, [0x630, 0x670]),
    (0xfc5c, [0x631, 0x670]), (0xfc5d, [0x649, 0x670]),
    (0xfc5e, [0x20, 0x64c, 0x651]), (0xfc5f, [0x20, 0x64d, 0x651]),
    (0xfc60, [0x20, 0x64e, 0x651]), (0xfc61, [0x20, 0x64f, 0x651]),
    (0xfc62, [0x20, 0x650, 0x651]), (0xfc63, [0x20, 0x651, 0x670]),
    (0xfc64, [0x626, 0x631]), (0xfc65, [0x626, 0x632]),
    (0xfc66, [0x626, 0x645]), (0xfc67, [0x626, 0x646]),
    (0xfc68, [0x626, 0x649]), (0xfc69, [0x626, 0x64a]),
    (0xfc6a, [0x628, 0x631]), (0xfc6b, [0x628, 0x632]),
    (0xfc6c, [0x628, 0x645]), (0xfc6d, [0x628, 0x646]),
    (0xfc6e, [0x628, 0x649]), (0xfc6f, [0x628, 0x64a]),
    (0xfc70, [0x62a, 0x631]), (0xfc71, [0x62a, 0x632]),
    (0xfc72, [0x62a, 0x645]), (0xfc73, [0x62a, 0x646]),
    (0xfc74, [0x62a, 0x649]), (0xfc75, [0x62a, 0x64a]),
    (0xfc76, [0x62b, 0x631]), (0xfc77, [0x62b, 0x632]),
    (0xfc78, [0x62b, 0x645]), (0xfc79, [0x62b, 0x646]),
    (0xfc7a, [0x62b, 0x649]), (0xfc7b, [0x62b, 0x64a]),
    (0xfc7c, [0x641, 0x649]), (0xfc7d, [0x641, 0x64a]),
    (0xfc7e, [0x642, 0x649]), (0xfc7f, [0x642, 0x64a]),
    (0xfc80, [0x643, 0x627]), (0xfc81, [0x643, 0x644]),
    (0xfc82, [0x643, 0x645]), (0xfc83, [0x643, 0x649]),
    (0xfc84, [0x643, 0x64a]), (0xfc85, [0x644, 0x645]),
    (0xfc86, [0x644, 0x649]), (0xfc87, [0x644, 0x64a]),
    (0xfc88, [0x645, 0x627]), (0xfc89, [0x645, 0x645]),
    (0xfc8a, [0x646, 0x631]), (0xfc8b, [0x646, 0x632]),
    (0xfc8c, [0x646, 0x645]), (0xfc8d, [0x646, 0x646]),
    (0xfc8e, [0x646, 0x649]), (0xfc8f, [0x646, 0x64a]),
    (0xfc90, [0x649, 0x670]), (0xfc91, [0x64a, 0x631]),
    (0xfc92, [0x64a, 0x632]), (0xfc93, [0x64a, 0x645]),
    (0xfc94, [0x64a, 0x646]), (0xfc95, [0x64a, 0x649]),
    (0xfc96, [0x64a, 0x64a]), (0xfc97, [0x626, 0x62c]),
    (0xfc98, [0x626, 0x62d]), (0xfc99, [0x626, 0x62e]),
    (0xfc9a, [0x626, 0x645]), (0xfc9b, [0x626, 0x647]),
    (0xfc9c, [0x628, 0x62c]), (0xfc9d, [0x628, 0x62d]),
    (0xfc9e, [0x628, 0x62e]), (0xfc9f, [0x628, 0x645]),
    (0xfca0, [0x628, 0x647]), (0xfca1, [0x62a, 0x62c]),
    (0xfca2, [0x62a, 0x62d]), (0xfca3, [0x62a, 0x62e]),
    (0xfca4, [0x62a, 0x645]), (0xfca5, [0x62a, 0x647]),
    (0xfca6, [0x62b, 0x645]), (0xfca7, [0x62c, 0x62d]),
    (0xfca8, [0x62c, 0x645]), (0xfca9, [0x62d, 0x62c]),
    (0xfcaa, [0x62d, 0x645]), (0xfcab, [0x62e, 0x62c]),
    (0xfcac, [0x62e, 0x645]), (0xfcad, [0x633, 0x62c]),
    (0xfcae, [0x633, 0x62d]), (0xfcaf, [0x633, 0x62e]),
    (0xfcb0, [0x633, 0x645]), (0xfcb1, [0x635, 0x62d]),
    (0xfcb2, [0x635, 0x62e]), (0xfcb3, [0x635, 0x645]),
    (0xfcb4, [0x636, 0x62c]), (0xfcb5, [0x636, 0x62d]),
    (0xfcb6, [0x636, 0x62e]), (0xfcb7, [0x636, 0x645]),
    (0xfcb8, [0x637, 0x62d]), (0xfcb9, [0x638, 0x645]),
    (0xfcba, [0x639, 0x62c]), (0xfcbb, [0x639, 0x645]),
    (0xfcbc, [0x63a, 0x62c]), (0xfcbd, [0x63a, 0x645]),
    (0xfcbe, [0x641, 0x62c]), (0xfcbf, [0x641, 0x62d]),
    (0xfcc0, [0x641, 0x62e]), (0xfcc1, [0x641, 0x645]),
    (0xfcc2, [0x642, 0x62d]), (0xfcc3, [0x642, 0x645]),
    (0xfcc4, [0x643, 0x62c]), (0xfcc5, [0x643, 0x62d]),
    (0xfcc6, [0x643, 0x62e]), (0xfcc7, [0x643, 0x644]),
    (0xfcc8, [0x643, 0x645]), (0xfcc9, [0x644, 0x62c]),
    (0xfcca, [0x644, 0x62d]), (0xfccb, [0x644, 0x62e]),
    (0xfccc, [0x644, 0x645]), (0xfccd, [0x644, 0x647]),
    (0xfcce, [0x645, 0x62c]), (0xfccf, [0x645, 0x62d]),
    (0xfcd0, [0x645, 0x62e]), (0xfcd1, [0x645, 0x645]),
    (0xfcd2, [0x646, 0x62c]), (0xfcd3, [0x646, 0x62d]),
    (0xfcd4, [0x646, 0x62e]), (0xfcd5, [0x646, 0x645]),
    (0xfcd6, [0x646, 0x647]), (0xfcd7, [0x647, 0x62c]),
    (0xfcd8, [0x647, 0x645]), (0xfcd9, [0x647, 0x670]),
    (0xfcda, [0x64a, 0x62c]), (0xfcdb, [0x64a, 0x62d]),
    (0xfcdc, [0x64a, 0x62e]), (0xfcdd, [0x64a, 0x645]),
    (0xfcde, [0x64a, 0x647]), (0xfcdf, [0x626, 0x645]),
    (0xfce0, [0x626, 0x647]), (0xfce1, [0x628, 0x645]),
    (0xfce2, [0x628, 0x647]), (0xfce3, [0x62a, 0x645]),
    (0xfce4, [0x62a, 0x647]), (0xfce5, [0x62b, 0x645]),
    (0xfce6, [0x62b, 0x647]), (0xfce7, [0x633, 0x645]),
    (0xfce8, [0x633, 0x647]), (0xfce9, [0x634, 0x645]),
    (0xfcea, [0x634, 0x647]), (0xfceb, [0x643, 0x644]),
    (0xfcec, [0x643, 0x645]), (0xfced, [0x644, 0x645]),
    (0xfcee, [0x646, 0x645]), (0xfcef, [0x646, 0x647]),
    (0xfcf0, [0x64a, 0x645]), (0xfcf1, [0x64a, 0x647]),
    (0xfcf2, [0x640, 0x64e, 0x651]), (0xfcf3, [0x640, 0x64f, 0x651]),
    (0xfcf4, [0x640, 0x650, 0x651]), (0xfcf5, [0x637, 0x649]),
    (0xfcf6, [0x637, 0x64a]), (0xfcf7, [0x639, 0x649]),
    (0xfcf8, [0x639, 0x64a]), (0xfcf9, [0x63a, 0x649]),
    (0xfcfa, [0x63a, 0x64a]), (0xfcfb, [0x633, 0x649]),
    (0xfcfc, [0x633, 0x64a]), (0xfcfd, [0x634, 0x649]),
    (0xfcfe, [0x634, 0x64a]), (0xfcff, [0x62d, 0x649]),
    (0xfd00, [0x62d, 0x64a]), (0xfd01, [0x62c, 0x649]),
    (0xfd02, [0x62c, 0x64a]), (0xfd03, [0x62e, 0x649]),
    (0xfd04, [0x62e, 0x64a]), (0xfd05, [0x635, 0x649]),
    (0xfd06, [0x635, 0x64a]), (0xfd07, [0x636, 0x649]),
    (0xfd08, [0x636, 0x64a]), (0xfd09, [0x634, 0x62c]),
    (0xfd0a, [0x634, 0x62d]), (0xfd0b, [0x634, 0x62e]),
    (0xfd0c, [0x634, 0x645]), (0xfd0d, [0x634, 0x631]),
    (0xfd0e, [0x633, 0x631]), (0xfd0f, [0x635, 0x631]),
    (0xfd10, [0x636, 0x631]), (0xfd11, [0x637, 0x649]),
    (0xfd12, [0x637, 0x64a]), (0xfd13, [0x639, 0x649]),
    (0xfd14, [0x639, 0x64a]), (0xfd15, [0x63a, 0x649]),
    (0xfd16, [0x63a, 0x64a]), (0xfd17, [0x633, 0x649]),
    (0xfd18, [0x633, 0x64a]), (0xfd19, [0x634, 0x649]),
    (0xfd1a, [0x634, 0x64a]), (0xfd1b, [0x62d, 0x649]),
    (0xfd1c, [0x62d, 0x64a]), (0xfd1d, [0x62c, 0x649]),
    (0xfd1e, [0x62c, 0x64a]), (0xfd1f, [0x62e, 0x649]),
    (0xfd20, [0x62e, 0x64a]), (0xfd21, [0x635, 0x649]),
    (0xfd22, [0x635, 0x64a]), (0xfd23, [0x636, 0x649]),
    (0xfd24, [0x636, 0x64a]), (0xfd25, [0x634, 0x62c]),
    (0xfd26, [0x634, 0x62d]), (0xfd27, [0x634, 0x62e]),
    (0xfd28, [0x634, 0x645]), (0xfd29, [0x634, 0x631]),
    (0xfd2a, [0x633, 0x631]), (0xfd2b, [0x635, 0x631]),
    (0xfd2c, [0x636, 0x631]), (0xfd2d, [0x634, 0x62c]),
    (0xfd2e, [0x634, 0x62d])]

def mapped10 : List (Nat × List Nat) :=
  [(0xfd2f, [0x634, 0x62e]), (0xfd30, [0x634, 0x645]), (0xfd31, [0x633, 0x647]),
    (0xfd32, [0x634, 0x647]), (0xfd33, [0x637, 0x645]),
    (0xfd34, [0x633, 0x62c]), (0xfd35, [0x633, 0x62d]),
    (0xfd36, [0x633, 0x62e]), (0xfd37, [0x634, 0x62c]),
    (0xfd38, [0x634, 0x62d]), (0xfd39, [0x634, 0x62e]),
    (0xfd3a, [0x637, 0x645]), (0xfd3b, [0x638, 0x645]),
    (0xfd3c, [0x627, 0x64b]), (0xfd3d, [0x627, 0x64b]),
    (0xfd50, [0x62a, 0x62c, 0x645]), (0xfd51, [0x62a, 0x62d, 0x62c]),
    (0xfd52, [0x62a, 0x62d, 0x62c]), (0xfd53, [0x62a, 0x62d, 0x645]),
    (0xfd54, [0x62a, 0x62e, 0x645]), (0xfd55, [0x62a, 0x645, 0x62c]),
    (0xfd56, [0x62a, 0x645, 0x62d]), (0xfd57, [0x62a, 0x645, 0x62e]),
    (0xfd58, [0x62c, 0x645, 0x62d]), (0xfd59, [0x62c, 0x645, 0x62d]),
    (0xfd5a, [0x62d, 0x645, 0x64a]), (0xfd5b, [0x62d, 0x645, 0x649]),
    (0xfd5c, [0x633, 0x62d, 0x62c]), (0xfd5d, [0x633, 0x62c, 0x62d]),
    (0xfd5e, [0x633, 0x62c, 0x649]), (0xfd5f, [0x633, 0x645, 0x62d]),
    (0xfd60, [0x633, 0x645, 0x62d]), (0xfd61, [0x633, 0x645, 0x62c]),
    (0xfd62, [0x633, 0x645, 0x645]), (0xfd63, [0x633, 0x645, 0x645]),
    (0xfd64, [0x635, 0x62d, 0x62d]), (0xfd65, [0x635, 0x62d, 0x62d]),
    (0xfd66, [0x635, 0x645, 0x645]), (0xfd67, [0x634, 0x62d, 0x645]),
    (0xfd68, [0x634, 0x62d, 0x645]), (0xfd69, [0x634, 0x62c, 0x64a]),
    (0xfd6a, [0x634, 0x645, 0x62e]), (0xfd6b, [0x634, 0x645, 0x62e]),
    (0xfd6c, [0x634, 0x645, 0x645]), (0xfd6d, [0x634, 0x645, 0x645]),
    (0xfd6e, [0x636, 0x62d, 0x649]), (0xfd6f, [0x636, 0x62e, 0x645]),
    (0xfd70, [0x636, 0x62e, 0x645]), (0xfd71, [0x637, 0x645, 0x62d]),
    (0xfd72, [0x637, 0x645, 0x62d]), (0xfd73, [0x637, 0x645, 0x645]),
    (0xfd74, [0x637, 0x645, 0x64a]), (0xfd75, [0x639, 0x62c, 0x645]),
    (0xfd76, [0x639, 0x645, 0x645]), (0xfd77, [0x639, 0x645, 0x645]),
    (0xfd78, [0x639, 0x645, 0x649]), (0xfd79, [0x63a, 0x645, 0x645]),
    (0xfd7a, [0x63a, 0x645, 0x64a]), (0xfd7b, [0x63a, 0x645, 0x649]),
    (0xfd7c, [0x641, 0x62e, 0x645]), (0xfd7d, [0x641, 0x62e, 0x645]),
    (0xfd7e, [0x642, 0x645, 0x62d]), (0xfd7f, [0x642, 0x645, 0x645]),
    (0xfd80, [0x644, 0x62d, 0x645]), (0xfd81, [0x644, 0x62d, 0x64a]),
    (0xfd82, [0x644, 0x62d, 0x649]), (0xfd83, [0x644, 0x62c, 0x62c]),
    (0xfd84, [0x644, 0x62c, 0x62c]), (0xfd85, [0x644, 0x62e, 0x645]),
    (0xfd86, [0x644, 0x62e, 0x645]), (0xfd87, [0x644, 0x645, 0x62d]),
    (0xfd88, [0x644, 0x645, 0x62d]), (0xfd89, [0x645, 0x62d, 0x62c]),
    (0xfd8a, [0x645, 0x62d, 0x645]), (0xfd8b, [0x645, 0x62d, 0x64a]),
    (0xfd8c, [0x645, 0x62c, 0x62d]), (0xfd8d, [0x645, 0x62c, 0x645]),
    (0xfd8e, [0x645, 0x62e, 0x62c]), (0xfd8f, [0x645, 0x62e, 0x645]),
    (0xfd92, [0x645, 0x62c, 0x62e]), (0xfd93, [0x647, 0x645, 0x62c]),
    (0xfd94, [0x647, 0x645, 0x645]), (0xfd95, [0x646, 0x62d, 0x645]),
    (0xfd96, [0x646, 0x62d, 0x649]), (0xfd97, [0x646, 0x62c, 0x645]),
    (0xfd98, [0x646, 0x62c, 0x645]), (0xfd99, [0x646, 0x62c, 0x649]),
    (0xfd9a, [0x646, 0x645, 0x64a]), (0xfd9b, [0x646, 0x645, 0x649]),
    (0xfd9c, [0x64a, 0x645, 0x645]), (0xfd9d, [0x64a, 0x645, 0x645]),
    (0xfd9e, [0x628, 0x62e, 0x64a]), (0xfd9f, [0x62a, 0x62c, 0x64a]),
    (0xfda0, [0x62a, 0x62c, 0x649]), (0xfda1, [0x62a, 0x62e, 0x64a]),
    (0xfda2, [0x62a, 0x62e, 0x649]), (0xfda3, [0x62a, 0x645, 0x64a]),
    (0xfda4, [0x62a, 0x645, 0x649]), (0xfda5, [0x62c, 0x645, 0x64a]),
    (0xfda6, [0x62c, 0x62d, 0x649]), (0xfda7, [0x62c, 0x645, 0x649]),
    (0xfda8, [0x633, 0x62e, 0x649]), (0xfda9, [0x635, 0x62d, 0x64a]),
    (0xfdaa, [0x634, 0x62d, 0x64a]), (0xfdab, [0x636, 0x62d, 0x64a]),
    (0xfdac, [0x644, 0x62c, 0x64a]), (0xfdad, [0x644, 0x645, 0x64a]),
    (0xfdae, [0x64a, 0x62d, 0x64a]), (0xfdaf, [0x64a, 0x62c, 0x64a]),
    (0xfdb0, [0x64a, 0x645, 0x64a]), (0xfdb1, [0x645, 0x645, 0x64a]),
    (0xfdb2, [0x642, 0x645, 0x64a]), (0xfdb3, [0x646, 0x62d, 0x64a]),
    (0xfdb4, [0x642, 0x645, 0x62d]), (0xfdb5, [0x644, 0x62d, 0x645]),
    (0xfdb6, [0x639, 0x645, 0x64a]), (0xfdb7, [0x643, 0x645, 0x64a]),
    (0xfdb8, [0x646, 0x62c, 0x62d]), (0xfdb9, [0x645, 0x62e, 0x64a]),
    (0xfdba, [0x644, 0x62c, 0x645]), (0xfdbb, [0x643, 0x645, 0x645]),
    (0xfdbc, [0x644, 0x62c, 0x645]), (0xfdbd, [0x646, 0x62c, 0x62d]),
    (0xfdbe, [0x62c, 0x62d, 0x64a]), (0xfdbf, [0x62d, 0x62c, 0x64a]),
    (0xfdc0, [0x645, 0x62c, 0x64a]), (0xfdc1, [0x641, 0x645, 0x64a]),
    (0xfdc2, [0x628, 0x62d, 0x64a]), (0xfdc3, [0x643, 0x645, 0x645]),
    (0xfdc4, [0x639, 0x62c, 0x645]), (0xfdc5, [0x635, 0x645, 0x645]),
    (0xfdc6, [0x633, 0x62e, 0x64a]), (0xfdc7, [0x646, 0x62c, 0x64a]),
    (0xfdf0, [0x635, 0x644, 0x6d2]), (0xfdf1, [0x642, 0x644, 0x6d2]),
    (0xfdf2, [0x627, 0x644, 0x644, 0x647]),
    (0xfdf3, [0x627, 0x643, 0x628, 0x631]),
    (0xfdf4, [0x645, 0x62d, 0x645, 0x62f]),
    (0xfdf5, [0x635, 0x644, 0x639, 0x645]),
    (0xfdf6, [0x631, 0x633, 0x648, 0x644]),
    (0xfdf7, [0x639, 0x644, 0x64a, 0x647]),
    (0xfdf8, [0x648, 0x633, 0x644, 0x645]), (0xfdf9, [0x635, 0x644, 0x649]),
    (0xfdfa, [0x635, 0x644, 0x649, 0x20, 0x627, 0x644, 0x644, 0x647, 0x20,
        0x639, 0x644, 0x64a, 0x647, 0x20, 0x648, 0x633, 0x644, 0x645]),
    (0xfdfb, [0x62c, 0x644, 0x20, 0x62c, 0x644, 0x627, 0x644, 0x647]),
    (0xfdfc, [0x631, 0x6cc, 0x627, 0x644]), (0xfe10, [0x2c]),
    (0xfe11, [0x3001]), (0xfe15, [0x21]), (0xfe16, [0x3f]), (0xfe31, [0x2014]),
    (0xfe32, [0x2013]), (0xfe33, [0x5f]), (0xfe34, [0x5f]), (0xfe37, [0x7b]),
    (0xfe38, [0x7d]), (0xfe47, [0x5b]), (0xfe48, [0x5d]),
    (0xfe49, [0x20, 0x305]), (0xfe4a, [0x20, 0x305]), (0xfe4b, [0x20, 0x305]),
    (0xfe4c, [0x20, 0x305]), (0xfe4d, [0x5f]), (0xfe4e, [0x5f]),
    (0xfe4f, [0x5f]), (0xfe50, [0x2c]), (0xfe51, [0x3001]), (0xfe54, [0x3b]),
    (0xfe55, [0x3a]), (0xfe56, [0x3f]), (0xfe57, [0x21]), (0xfe58, [0x2014]),
    (0xfe5b, [0x7b]), (0xfe5c, [0x7d]), (0xfe5f, [0x23]), (0xfe60, [0x26]),
    (0xfe63, [0x2d]), (0xfe64, [0x3c]), (0xfe65, [0x3e]), (0xfe66, [0x3d]),
    (0xfe68, [0x5c]), (0xfe6b, [0x40]), (0xfe70, [0x20, 0x64b]),
    (0xfe71, [0x640, 0x64b]), (0xfe72, [0x20, 0x64c]), (0xfe74, [0x20, 0x64d]),
    (0xfe76, [0x20, 0x64e]), (0xfe77, [0x640, 0x64e]), (0xfe78, [0x20, 0x64f]),
    (0xfe79, [0x640, 0x64f]), (0xfe7a, [0x20, 0x650]), (0xfe7b, [0x640, 0x650]),
    (0xfe7c, [0x20, 0x651]), (0xfe7d, [0x640, 0x651]), (0xfe7e, [0x20, 0x652]),
    (0xfe7f, [0x640, 0x652]), (0xfe8a, [0x626]), (0xfe8b, [0x626]),
    (0xfe90, [0x628]), (0xfe91, [0x628]), (0xfe96, [0x62a]), (0xfe97, [0x62a]),
    (0xfe9a, [0x62b]), (0xfe9b, [0x62b]), (0xfe9e, [0x62c]), (0xfe9f, [0x62c]),
    (0xfea2, [0x62d]), (0xfea3, [0x62d]), (0xfea6, [0x62e]), (0xfea7, [0x62e]),
    (0xfeb2, [0x633]), (0xfeb3, [0x633]), (0xfeb6, [0x634]), (0xfeb7, [0x634]),
    (0xfeba, [0x635]), (0xfebb, [0x635]), (0xfebe, [0x636]), (0xfebf, [0x636]),
    (0xfec2, [0x637]), (0xfec3, [0x637]), (0xfec6, [0x638]), (0xfec7, [0x638]),
    (0xfeca, [0x639]), (0xfecb, [0x639]), (0xfece, [0x63a]), (0xfecf, [0x63a]),
    (0xfed0, [0x63a]), (0xfed1, [0x641]), (0xfed2, [0x641]), (0xfed3, [0x641]),
    (0xfed6, [0x642]), (0xfed7, [0x642]), (0xfeda, [0x643]), (0xfedb, [0x643]),
    (0xfede, [0x644]), (0xfedf, [0x644]), (0xfee2, [0x645]), (0xfee3, [0x645]),
    (0xfee6, [0x646]), (0xfee7, [0x646]), (0xfeea, [0x647]), (0xfeeb, [0x647]),
    (0xfef2, [0x64a]), (0xfef3, [0x64a]), (0xfef4, [0x64a]),
    (0xfef5, [0x644, 0x622]), (0xfef6, [0x644, 0x622]),
    (0xfef7, [0x644, 0x623]), (0xfef8, [0x644, 0x623]),
    (0xfef9, [0x644, 0x625])]

def mapped11 : List (Nat × List Nat) :=
  [(0xfefa, [0x644, 0x625]), (0xfefb, [0x644, 0x627]), (0xfefc, [0x644, 0x627]),
    (0xfeff, []), (0xff61, [0x2e]), (0xff64, [0x3001]), (0xff65, [0x30fb]),
    (0xff66, [0x30f2]), (0xff67, [0x30a1]), (0xff68, [0x30a3]),
    (0xff69, [0x30a5]), (0xff6a, [0x30a7]), (0xff6b, [0x30a9]),
    (0xff6c, [0x30e3]), (0xff6d, [0x30e5]), (0xff6e, [0x30e7]),
    (0xff6f, [0x30c3]), (0xff70, [0x30fc]), (0xff71, [0x30a2]),
    (0xff72, [0x30a4]), (0xff73, [0x30a6]), (0xff74, [0x30a8]),
    (0xff77, [0x30ad]), (0xff78, [0x30af]), (0xff79, [0x30b1]),
    (0xff7a, [0x30b3]), (0xff7b, [0x30b5]), (0xff7c, [0x30b7]),
    (0xff7d, [0x30b9]), (0xff7e, [0x30bb]), (0xff7f, [0x30bd]),
    (0xff80, [0x30bf]), (0xff81, [0x30c1]), (0xff82, [0x30c4]),
    (0xff83, [0x30c6]), (0xff84, [0x30c8]), (0xff8b, [0x30d2]),
    (0xff8c, [0x30d5]), (0xff8d, [0x30d8]), (0xff8e, [0x30db]),
    (0xff94, [0x30e4]), (0xff95, [0x30e6]), (0xff9c, [0x30ef]),
    (0xff9d, [0x30f3]), (0xffa0, []), (0xffa3, [0x11aa]), (0xffa4, [0x1102]),
    (0xffb0, [0x111a]), (0xffb4, [0x1121]), (0xffe2, [0xac]),
    (0xffe3, [0x20, 0x304]), (0xffe4, [0xa6]), (0xffe5, [0xa5]),
    (0xffe6, [0x20a9]), (0xffe8, [0x2502]), (0xffed, [0x25a0]),
    (0xffee, [0x25cb]), (0x10783, [0xe6]), (0x10784, [0x299]),
    (0x10785, [0x253]), (0x10787, [0x2a3]), (0x10788, [0xab66]),
    (0x10789, [0x2a5]), (0x1078a, [0x2a4]), (0x1078d, [0x1d91]),
    (0x1078e, [0x258]), (0x1078f, [0x25e]), (0x10790, [0x2a9]),
    (0x10791, [0x264]), (0x10792, [0x262]), (0x10793, [0x260]),
    (0x10794, [0x29b]), (0x10795, [0x127]), (0x10796, [0x29c]),
    (0x10797, [0x267]), (0x10798, [0x284]), (0x1079b, [0x26c]),
    (0x1079c, [0x1df04]), (0x1079d, [0xa78e]), (0x1079e, [0x26e]),
    (0x1079f, [0x1df05]), (0x107a0, [0x28e]), (0x107a1, [0x1df06]),
    (0x107a2, [0xf8]), (0x107a5, [0x71]), (0x107a6, [0x27a]),
    (0x107a7, [0x1df08]), (0x107aa, [0x280]), (0x107ab, [0x2a8]),
    (0x107ac, [0x2a6]), (0x107ad, [0xab67]), (0x107ae, [0x2a7]),
    (0x107af, [0x288]), (0x107b0, [0x2c71]), (0x107b2, [0x28f]),
    (0x107b5, [0x298]), (0x107b9, [0x1df0a]), (0x107ba, [0x1df1e]),
    (0x1d15e, [0x1d157, 0x1d165]), (0x1d15f, [0x1d158, 0x1d165]),
    (0x1d160, [0x1d158, 0x1d165, 0x1d16e]),
    (0x1d161, [0x1d158, 0x1d165, 0x1d16f]),
    (0x1d162, [0x1d158, 0x1d165, 0x1d170]),
    (0x1d163, [0x1d158, 0x1d165, 0x1d171]),
    (0x1d164, [0x1d158, 0x1d165, 0x1d172]), (0x1d1bb, [0x1d1b9, 0x1d165]),
    (0x1d1bc, [0x1d1ba, 0x1d165]), (0x1d1bd, [0x1d1b9, 0x1d165, 0x1d16e]),
    (0x1d1be, [0x1d1ba, 0x1d165, 0x1d16e]),
    (0x1d1bf, [0x1d1b9, 0x1d165, 0x1d16f]),
    (0x1d1c0, [0x1d1ba, 0x1d165, 0x1d16f]), (0x1d49f, [0x64]),
    (0x1d4a2, [0x67]), (0x1d546, [0x6f]), (0x1d6a4, [0x131]),
    (0x1d6a5, [0x237]), (0x1d6b9, [0x3b8]), (0x1d6c1, [0x2207]),
    (0x1d6d3, [0x3c3]), (0x1d6db, [0x2202]), (0x1d6dc, [0x3b5]),
    (0x1d6dd, [0x3b8]), (0x1d6de, [0x3ba]), (0x1d6df, [0x3c6]),
    (0x1d6e0, [0x3c1]), (0x1d6e1, [0x3c0]), (0x1d6f3, [0x3b8]),
    (0x1d6fb, [0x2207]), (0x1d70d, [0x3c3]), (0x1d715, [0x2202]),
    (0x1d716, [0x3b5]), (0x1d717, [0x3b8]), (0x1d718, [0x3ba]),
    (0x1d719, [0x3c6]), (0x1d71a, [0x3c1]), (0x1d71b, [0x3c0]),
    (0x1d72d, [0x3b8]), (0x1d735, [0x2207]), (0x1d747, [0x3c3]),
    (0x1d74f, [0x2202]), (0x1d750, [0x3b5]), (0x1d751, [0x3b8]),
    (0x1d752, [0x3ba]), (0x1d753, [0x3c6]), (0x1d754, [0x3c1]),
    (0x1d755, [0x3c0]), (0x1d767, [0x3b8]), (0x1d76f, [0x2207]),
    (0x1d781, [0x3c3]), (0x1d789, [0x2202]), (0x1d78a, [0x3b5]),
    (0x1d78b, [0x3b8]), (0x1d78c, [0x3ba]), (0x1d78d, [0x3c6]),
    (0x1d78e, [0x3c1]), (0x1d78f, [0x3c0]), (0x1d7a1, [0x3b8]),
    (0x1d7a9, [0x2207]), (0x1d7bb, [0x3c3]), (0x1d7c3, [0x2202]),
    (0x1d7c4, [0x3b5]), (0x1d7c5, [0x3b8]), (0x1d7c6, [0x3ba]),
    (0x1d7c7, [0x3c6]), (0x1d7c8, [0x3c1]), (0x1d7c9, [0x3c0]),
    (0x1d7ca, [0x3dd]), (0x1d7cb, [0x3dd]), (0x1e047, [0x44b]),
    (0x1e04a, [0xa689]), (0x1e04b, [0x4d9]), (0x1e04c, [0x456]),
    (0x1e04d, [0x458]), (0x1e04e, [0x4e9]), (0x1e04f, [0x4af]),
    (0x1e050, [0x4cf]), (0x1e05e, [0x441]), (0x1e067, [0x491]),
    (0x1e068, [0x456]), (0x1e069, [0x455]), (0x1e06a, [0x45f]),
    (0x1e06b, [0x4ab]), (0x1e06c, [0xa651]), (0x1e06d, [0x4b1]),
    (0x1ee02, [0x62c]), (0x1ee03, [0x62f]), (0x1ee05, [0x648]),
    (0x1ee06, [0x632]), (0x1ee07, [0x62d]), (0x1ee08, [0x637]),
    (0x1ee09, [0x64a]), (0x1ee0e, [0x633]), (0x1ee0f, [0x639]),
    (0x1ee10, [0x641]), (0x1ee11, [0x635]), (0x1ee12, [0x642]),
    (0x1ee13, [0x631]), (0x1ee14, [0x634]), (0x1ee17, [0x62e]),
    (0x1ee18, [0x630]), (0x1ee19, [0x636]), (0x1ee1a, [0x638]),
    (0x1ee1b, [0x63a]), (0x1ee1c, [0x66e]), (0x1ee1d, [0x6ba]),
    (0x1ee1e, [0x6a1]), (0x1ee1f, [0x66f]), (0x1ee21, [0x628]),
    (0x1ee22, [0x62c]), (0x1ee24, [0x647]), (0x1ee27, [0x62d]),
    (0x1ee29, [0x64a]), (0x1ee2e, [0x633]), (0x1ee2f, [0x639]),
    (0x1ee30, [0x641]), (0x1ee31, [0x635]), (0x1ee32, [0x642]),
    (0x1ee34, [0x634]), (0x1ee37, [0x62e]), (0x1ee39, [0x636]),
    (0x1ee3b, [0x63a]), (0x1ee42, [0x62c]), (0x1ee47, [0x62d]),
    (0x1ee49, [0x64a]), (0x1ee4e, [0x633]), (0x1ee4f, [0x639]),
    (0x1ee51, [0x635]), (0x1ee52, [0x642]), (0x1ee54, [0x634]),
    (0x1ee57, [0x62e]), (0x1ee59, [0x636]), (0x1ee5b, [0x63a]),
    (0x1ee5d, [0x6ba]), (0x1ee5f, [0x66f]), (0x1ee61, [0x628]),
    (0x1ee62, [0x62c]), (0x1ee64, [0x647]), (0x1ee67, [0x62d]),
    (0x1ee68, [0x637]), (0x1ee69, [0x64a]), (0x1ee6d, [0x646]),
    (0x1ee6e, [0x633]), (0x1ee6f, [0x639]), (0x1ee70, [0x641]),
    (0x1ee71, [0x635]), (0x1ee72, [0x642]), (0x1ee74, [0x634]),
    (0x1ee77, [0x62e]), (0x1ee79, [0x636]), (0x1ee7a, [0x638])]

def mapped12 : List (Nat × List Nat) :=
  [(0x1ee7b, [0x63a]), (0x1ee7c, [0x66e]), (0x1ee7e, [0x6a1]),
    (0x1ee82, [0x62c]), (0x1ee83, [0x62f]), (0x1ee86, [0x632]),
    (0x1ee87, [0x62d]), (0x1ee88, [0x637]), (0x1ee89, [0x64a]),
    (0x1ee8e, [0x633]), (0x1ee8f, [0x639]), (0x1ee90, [0x641]),
    (0x1ee91, [0x635]), (0x1ee92, [0x642]), (0x1ee93, [0x631]),
    (0x1ee94, [0x634]), (0x1ee97, [0x62e]), (0x1ee98, [0x630]),
    (0x1ee99, [0x636]), (0x1ee9a, [0x638]), (0x1ee9b, [0x63a]),
    (0x1eea1, [0x628]), (0x1eea2, [0x62c]), (0x1eea3, [0x62f]),
    (0x1eea5, [0x648]), (0x1eea6, [0x632]), (0x1eea7, [0x62d]),
    (0x1eea8, [0x637]), (0x1eea9, [0x64a]), (0x1eeae, [0x633]),
    (0x1eeaf, [0x639]), (0x1eeb0, [0x641]), (0x1eeb1, [0x635]),
    (0x1eeb2, [0x642]), (0x1eeb3, [0x631]), (0x1eeb4, [0x634]),
    (0x1eeb7, [0x62e]), (0x1eeb8, [0x630]), (0x1eeb9, [0x636]),
    (0x1eeba, [0x638]), (0x1eebb, [0x63a]), (0x1f101, [0x30, 0x2c]),
    (0x1f102, [0x31, 0x2c]), (0x1f103, [0x32, 0x2c]), (0x1f104, [0x33, 0x2c]),
    (0x1f105, [0x34, 0x2c]), (0x1f106, [0x35, 0x2c]), (0x1f107, [0x36, 0x2c]),
    (0x1f108, [0x37, 0x2c]), (0x1f109, [0x38, 0x2c]), (0x1f10a, [0x39, 0x2c]),
    (0x1f110, [0x28, 0x61, 0x29]), (0x1f111, [0x28, 0x62, 0x29]),
    (0x1f112, [0x28, 0x63, 0x29]), (0x1f113, [0x28, 0x64, 0x29]),
    (0x1f114, [0x28, 0x65, 0x29]), (0x1f115, [0x28, 0x66, 0x29]),
    (0x1f116, [0x28, 0x67, 0x29]), (0x1f117, [0x28, 0x68, 0x29]),
    (0x1f118, [0x28, 0x69, 0x29]), (0x1f119, [0x28, 0x6a, 0x29]),
    (0x1f11a, [0x28, 0x6b, 0x29]), (0x1f11b, [0x28, 0x6c, 0x29]),
    (0x1f11c, [0x28, 0x6d, 0x29]), (0x1f11d, [0x28, 0x6e, 0x29]),
    (0x1f11e, [0x28, 0x6f, 0x29]), (0x1f11f, [0x28, 0x70, 0x29]),
    (0x1f120, [0x28, 0x71, 0x29]), (0x1f121, [0x28, 0x72, 0x29]),
    (0x1f122, [0x28, 0x73, 0x29]), (0x1f123, [0x28, 0x74, 0x29]),
    (0x1f124, [0x28, 0x75, 0x29]), (0x1f125, [0x28, 0x76, 0x29]),
    (0x1f126, [0x28, 0x77, 0x29]), (0x1f127, [0x28, 0x78, 0x29]),
    (0x1f128, [0x28, 0x79, 0x29]), (0x1f129, [0x28, 0x7a, 0x29]),
    (0x1f12a, [0x3014, 0x73, 0x3015]), (0x1f12b, [0x63]), (0x1f12c, [0x72]),
    (0x1f12d, [0x63, 0x64]), (0x1f12e, [0x77, 0x7a]), (0x1f14a, [0x68, 0x76]),
    (0x1f14b, [0x6d, 0x76]), (0x1f14c, [0x73, 0x64]), (0x1f14d, [0x73, 0x73]),
    (0x1f14e, [0x70, 0x70, 0x76]), (0x1f14f, [0x77, 0x63]),
    (0x1f16a, [0x6d, 0x63]), (0x1f16b, [0x6d, 0x64]), (0x1f16c, [0x6d, 0x72]),
    (0x1f190, [0x64, 0x6a]), (0x1f200, [0x307b, 0x304b]),
    (0x1f201, [0x30b3, 0x30b3]), (0x1f202, [0x30b5]), (0x1f210, [0x624b]),
    (0x1f211, [0x5b57]), (0x1f212, [0x53cc]), (0x1f213, [0x30c7]),
    (0x1f214, [0x4e8c]), (0x1f215, [0x591a]), (0x1f216, [0x89e3]),
    (0x1f217, [0x5929]), (0x1f218, [0x4ea4]), (0x1f219, [0x6620]),
    (0x1f21a, [0x7121]), (0x1f21b, [0x6599]), (0x1f21c, [0x524d]),
    (0x1f21d, [0x5f8c]), (0x1f21e, [0x518d]), (0x1f21f, [0x65b0]),
    (0x1f220, [0x521d]), (0x1f221, [0x7d42]), (0x1f222, [0x751f]),
    (0x1f223, [0x8ca9]), (0x1f224, [0x58f0]), (0x1f225, [0x5439]),
    (0x1f226, [0x6f14]), (0x1f227, [0x6295]), (0x1f228, [0x6355]),
    (0x1f229, [0x4e00]), (0x1f22a, [0x4e09]), (0x1f22b, [0x904a]),
    (0x1f22c, [0x5de6]), (0x1f22d, [0x4e2d]), (0x1f22e, [0x53f3]),
    (0x1f22f, [0x6307]), (0x1f230, [0x8d70]), (0x1f231, [0x6253]),
    (0x1f232, [0x7981]), (0x1f233, [0x7a7a]), (0x1f234, [0x5408]),
    (0x1f235, [0x6e80]), (0x1f236, [0x6709]), (0x1f237, [0x6708]),
    (0x1f238, [0x7533]), (0x1f239, [0x5272]), (0x1f23a, [0x55b6]),
    (0x1f23b, [0x914d]), (0x1f240, [0x3014, 0x672c, 0x3015]),
    (0x1f241, [0x3014, 0x4e09, 0x3015]), (0x1f242, [0x3014, 0x4e8c, 0x3015]),
    (0x1f243, [0x3014, 0x5b89, 0x3015]), (0x1f244, [0x3014, 0x70b9, 0x3015]),
    (0x1f245, [0x3014, 0x6253, 0x3015]), (0x1f246, [0x3014, 0x76d7, 0x3015]),
    (0x1f247, [0x3014, 0x52dd, 0x3015]), (0x1f248, [0x3014, 0x6557, 0x3015]),
    (0x1f250, [0x5f97]), (0x1f251, [0x53ef]), (0x2f800, [0x4e3d]),
    (0x2f801, [0x4e38]), (0x2f802, [0x4e41]), (0x2f803, [0x20122]),
    (0x2f804, [0x4f60]), (0x2f805, [0x4fae]), (0x2f806, [0x4fbb]),
    (0x2f807, [0x5002]), (0x2f808, [0x507a]), (0x2f809, [0x5099]),
    (0x2f80a, [0x50e7]), (0x2f80b, [0x50cf]), (0x2f80c, [0x349e]),
    (0x2f80d, [0x2063a]), (0x2f80e, [0x514d]), (0x2f80f, [0x5154]),
    (0x2f810, [0x5164]), (0x2f811, [0x5177]), (0x2f812, [0x2051c]),
    (0x2f813, [0x34b9]), (0x2f814, [0x5167]), (0x2f815, [0x518d]),
    (0x2f816, [0x2054b]), (0x2f817, [0x5197]), (0x2f818, [0x51a4]),
    (0x2f819, [0x4ecc]), (0x2f81a, [0x51ac]), (0x2f81b, [0x51b5]),
    (0x2f81c, [0x291df]), (0x2f81d, [0x51f5]), (0x2f81e, [0x5203]),
    (0x2f81f, [0x34df]), (0x2f820, [0x523b]), (0x2f821, [0x5246]),
    (0x2f822, [0x5272]), (0x2f823, [0x5277]), (0x2f824, [0x3515]),
    (0x2f825, [0x52c7]), (0x2f826, [0x52c9]), (0x2f827, [0x52e4]),
    (0x2f828, [0x52fa]), (0x2f82b, [0x5317]), (0x2f82c, [0x5349]),
    (0x2f82d, [0x5351]), (0x2f82e, [0x535a]), (0x2f82f, [0x5373]),
    (0x2f830, [0x537d]), (0x2f831, [0x537f]), (0x2f832, [0x537f]),
    (0x2f833, [0x537f]), (0x2f834, [0x20a2c]), (0x2f835, [0x7070]),
    (0x2f836, [0x53ca]), (0x2f837, [0x53df]), (0x2f838, [0x20b63]),
    (0x2f839, [0x53eb]), (0x2f83a, [0x53f1]), (0x2f83b, [0x5406]),
    (0x2f83c, [0x549e]), (0x2f83d, [0x5438]), (0x2f83e, [0x5448]),
    (0x2f83f, [0x5468]), (0x2f840, [0x54a2]), (0x2f841, [0x54f6]),
    (0x2f842, [0x5510]), (0x2f843, [0x5553]), (0x2f844, [0x5563]),
    (0x2f845, [0x5584]), (0x2f846, [0x5584]), (0x2f847, [0x5599]),
    (0x2f848, [0x55ab]), (0x2f849, [0x55b3]), (0x2f84a, [0x55c2]),
    (0x2f84b, [0x5716]), (0x2f84c, [0x5606]), (0x2f84d, [0x5717]),
    (0x2f84e, [0x5651]), (0x2f84f, [0x5674]), (0x2f850, [0x5207]),
    (0x2f851, [0x58ee]), (0x2f852, [0x57ce]), (0x2f853, [0x57f4]),
    (0x2f854, [0x580d]), (0x2f855, [0x578b]), (0x2f856, [0x5832]),
    (0x2f857, [0x5831]), (0x2f858, [0x58ac]), (0x2f859, [0x214e4]),
    (0x2f85a, [0x58f2]), (0x2f85b, [0x58f7]), (0x2f85c, [0x5906]),
    (0x2f85d, [0x591a]), (0x2f85e, [0x5922]), (0x2f85f, [0x5962]),
    (0x2f860, [0x216a8]), (0x2f861, [0x216ea]), (0x2f862, [0x59ec]),
    (0x2f863, [0x5a1b]), (0x2f864, [0x5a27]), (0x2f865, [0x59d8])]

def mapped13 : List (Nat × List Nat) :=
  [(0x2f866, [0x5a66]), (0x2f867, [0x36ee]), (0x2f868, [0x36fc]),
    (0x2f869, [0x5b08]), (0x2f86a, [0x5b3e]), (0x2f86b, [0x5b3e]),
    (0x2f86c, [0x219c8]), (0x2f86d, [0x5bc3]), (0x2f86e, [0x5bd8]),
    (0x2f86f, [0x5be7]), (0x2f870, [0x5bf3]), (0x2f871, [0x21b18]),
    (0x2f872, [0x5bff]), (0x2f873, [0x5c06]), (0x2f874, [0x5f53]),
    (0x2f875, [0x5c22]), (0x2f876, [0x3781]), (0x2f877, [0x5c60]),
    (0x2f878, [0x5c6e]), (0x2f879, [0x5cc0]), (0x2f87a, [0x5c8d]),
    (0x2f87b, [0x21de4]), (0x2f87c, [0x5d43]), (0x2f87d, [0x21de6]),
    (0x2f87e, [0x5d6e]), (0x2f87f, [0x5d6b]), (0x2f880, [0x5d7c]),
    (0x2f883, [0x382f]), (0x2f884, [0x5dfd]), (0x2f885, [0x5e28]),
    (0x2f886, [0x5e3d]), (0x2f887, [0x5e69]), (0x2f888, [0x3862]),
    (0x2f889, [0x22183]), (0x2f88a, [0x387c]), (0x2f88b, [0x5eb0]),
    (0x2f88c, [0x5eb3]), (0x2f88d, [0x5eb6]), (0x2f88e, [0x5eca]),
    (0x2f88f, [0x2a392]), (0x2f890, [0x5efe]), (0x2f891, [0x22331]),
    (0x2f892, [0x22331]), (0x2f893, [0x8201]), (0x2f894, [0x5f22]),
    (0x2f895, [0x5f22]), (0x2f896, [0x38c7]), (0x2f897, [0x232b8]),
    (0x2f898, [0x261da]), (0x2f899, [0x5f62]), (0x2f89a, [0x5f6b]),
    (0x2f89b, [0x38e3]), (0x2f89c, [0x5f9a]), (0x2f89d, [0x5fcd]),
    (0x2f89e, [0x5fd7]), (0x2f89f, [0x5ff9]), (0x2f8a0, [0x6081]),
    (0x2f8a1, [0x393a]), (0x2f8a2, [0x391c]), (0x2f8a3, [0x6094]),
    (0x2f8a4, [0x226d4]), (0x2f8a5, [0x60c7]), (0x2f8a6, [0x6148]),
    (0x2f8a7, [0x614c]), (0x2f8a8, [0x614e]), (0x2f8a9, [0x614c]),
    (0x2f8aa, [0x617a]), (0x2f8ab, [0x618e]), (0x2f8ac, [0x61b2]),
    (0x2f8ad, [0x61a4]), (0x2f8ae, [0x61af]), (0x2f8af, [0x61de]),
    (0x2f8b0, [0x61f2]), (0x2f8b1, [0x61f6]), (0x2f8b2, [0x6210]),
    (0x2f8b3, [0x621b]), (0x2f8b4, [0x625d]), (0x2f8b5, [0x62b1]),
    (0x2f8b6, [0x62d4]), (0x2f8b7, [0x6350]), (0x2f8b8, [0x22b0c]),
    (0x2f8b9, [0x633d]), (0x2f8ba, [0x62fc]), (0x2f8bb, [0x6368]),
    (0x2f8bc, [0x6383]), (0x2f8bd, [0x63e4]), (0x2f8be, [0x22bf1]),
    (0x2f8bf, [0x6422]), (0x2f8c0, [0x63c5]), (0x2f8c1, [0x63a9]),
    (0x2f8c2, [0x3a2e]), (0x2f8c3, [0x6469]), (0x2f8c4, [0x647e]),
    (0x2f8c5, [0x649d]), (0x2f8c6, [0x6477]), (0x2f8c7, [0x3a6c]),
    (0x2f8c8, [0x654f]), (0x2f8c9, [0x656c]), (0x2f8ca, [0x2300a]),
    (0x2f8cb, [0x65e3]), (0x2f8cc, [0x66f8]), (0x2f8cd, [0x6649]),
    (0x2f8ce, [0x3b19]), (0x2f8cf, [0x6691]), (0x2f8d0, [0x3b08]),
    (0x2f8d1, [0x3ae4]), (0x2f8d2, [0x5192]), (0x2f8d3, [0x5195]),
    (0x2f8d4, [0x6700]), (0x2f8d5, [0x669c]), (0x2f8d6, [0x80ad]),
    (0x2f8d7, [0x43d9]), (0x2f8d8, [0x6717]), (0x2f8d9, [0x671b]),
    (0x2f8da, [0x6721]), (0x2f8db, [0x675e]), (0x2f8dc, [0x6753]),
    (0x2f8dd, [0x233c3]), (0x2f8de, [0x3b49]), (0x2f8df, [0x67fa]),
    (0x2f8e0, [0x6785]), (0x2f8e1, [0x6852]), (0x2f8e2, [0x6885]),
    (0x2f8e3, [0x2346d]), (0x2f8e4, [0x688e]), (0x2f8e5, [0x681f]),
    (0x2f8e6, [0x6914]), (0x2f8e7, [0x3b9d]), (0x2f8e8, [0x6942]),
    (0x2f8e9, [0x69a3]), (0x2f8ea, [0x69ea]), (0x2f8eb, [0x6aa8]),
    (0x2f8ec, [0x236a3]), (0x2f8ed, [0x6adb]), (0x2f8ee, [0x3c18]),
    (0x2f8ef, [0x6b21]), (0x2f8f0, [0x238a7]), (0x2f8f1, [0x6b54]),
    (0x2f8f2, [0x3c4e]), (0x2f8f3, [0x6b72]), (0x2f8f4, [0x6b9f]),
    (0x2f8f7, [0x23a8d]), (0x2f8f8, [0x21d0b]), (0x2f8f9, [0x23afa]),
    (0x2f8fa, [0x6c4e]), (0x2f8fb, [0x23cbc]), (0x2f8fc, [0x6cbf]),
    (0x2f8fd, [0x6ccd]), (0x2f8fe, [0x6c67]), (0x2f8ff, [0x6d16]),
    (0x2f900, [0x6d3e]), (0x2f901, [0x6d77]), (0x2f902, [0x6d41]),
    (0x2f903, [0x6d69]), (0x2f904, [0x6d78]), (0x2f905, [0x6d85]),
    (0x2f906, [0x23d1e]), (0x2f907, [0x6d34]), (0x2f908, [0x6e2f]),
    (0x2f909, [0x6e6e]), (0x2f90a, [0x3d33]), (0x2f90b, [0x6ecb]),
    (0x2f90c, [0x6ec7]), (0x2f90d, [0x23ed1]), (0x2f90e, [0x6df9]),
    (0x2f90f, [0x6f6e]), (0x2f910, [0x23f5e]), (0x2f911, [0x23f8e]),
    (0x2f912, [0x6fc6]), (0x2f913, [0x7039]), (0x2f914, [0x701e]),
    (0x2f915, [0x701b]), (0x2f916, [0x3d96]), (0x2f917, [0x704a]),
    (0x2f918, [0x707d]), (0x2f919, [0x7077]), (0x2f91a, [0x70ad]),
    (0x2f91b, [0x20525]), (0x2f91c, [0x7145]), (0x2f91d, [0x24263]),
    (0x2f91e, [0x719c]), (0x2f91f, [0x243ab]), (0x2f920, [0x7228]),
    (0x2f921, [0x7235]), (0x2f922, [0x7250]), (0x2f923, [0x24608]),
    (0x2f924, [0x7280]), (0x2f925, [0x7295]), (0x2f926, [0x24735]),
    (0x2f927, [0x24814]), (0x2f928, [0x737a]), (0x2f929, [0x738b]),
    (0x2f92a, [0x3eac]), (0x2f92b, [0x73a5]), (0x2f92c, [0x3eb8]),
    (0x2f92d, [0x3eb8]), (0x2f92e, [0x7447]), (0x2f92f, [0x745c]),
    (0x2f930, [0x7471]), (0x2f931, [0x7485]), (0x2f932, [0x74ca]),
    (0x2f933, [0x3f1b]), (0x2f934, [0x7524]), (0x2f935, [0x24c36]),
    (0x2f936, [0x753e]), (0x2f937, [0x24c92]), (0x2f938, [0x7570]),
    (0x2f939, [0x2219f]), (0x2f93a, [0x7610]), (0x2f93b, [0x24fa1]),
    (0x2f93c, [0x24fb8]), (0x2f93d, [0x25044]), (0x2f93e, [0x3ffc]),
    (0x2f93f, [0x4008]), (0x2f940, [0x76f4]), (0x2f941, [0x250f3]),
    (0x2f942, [0x250f2]), (0x2f943, [0x25119]), (0x2f944, [0x25133]),
    (0x2f947, [0x771f]), (0x2f948, [0x774a]), (0x2f949, [0x4039]),
    (0x2f94a, [0x778b]), (0x2f94b, [0x4046]), (0x2f94c, [0x4096]),
    (0x2f94d, [0x2541d]), (0x2f94e, [0x784e]), (0x2f94f, [0x788c]),
    (0x2f950, [0x78cc]), (0x2f951, [0x40e3]), (0x2f952, [0x25626]),
    (0x2f953, [0x7956]), (0x2f954, [0x2569a]), (0x2f955, [0x256c5]),
    (0x2f956, [0x798f]), (0x2f957, [0x79eb]), (0x2f958, [0x412f]),
    (0x2f959, [0x7a40]), (0x2f95a, [0x7a4a]), (0x2f95b, [0x7a4f]),
    (0x2f95c, [0x2597c]), (0x2f95d, [0x25aa7]), (0x2f95e, [0x25aa7]),
    (0x2f95f, [0x7aee]), (0x2f960, [0x4202]), (0x2f961, [0x25bab]),
    (0x2f962, [0x7bc6]), (0x2f963, [0x7bc9]), (0x2f964, [0x4227]),
    (0x2f965, [0x25c80])]

def mapped14 : List (Nat × List Nat) :=
  [(0x2f966, [0x7cd2]), (0x2f967, [0x42a0]), (0x2f968, [0x7ce8]),
    (0x2f969, [0x7ce3]), (0x2f96a, [0x7d00]), (0x2f96b, [0x25f86]),
    (0x2f96c, [0x7d63]), (0x2f96d, [0x4301]), (0x2f96e, [0x7dc7]),
    (0x2f96f, [0x7e02]), (0x2f970, [0x7e45]), (0x2f971, [0x4334]),
    (0x2f972, [0x26228]), (0x2f973, [0x26247]), (0x2f974, [0x4359]),
    (0x2f975, [0x262d9]), (0x2f976, [0x7f7a]), (0x2f977, [0x2633e]),
    (0x2f978, [0x7f95]), (0x2f979, [0x7ffa]), (0x2f97a, [0x8005]),
    (0x2f97b, [0x264da]), (0x2f97c, [0x26523]), (0x2f97d, [0x8060]),
    (0x2f97e, [0x265a8]), (0x2f97f, [0x8070]), (0x2f980, [0x2335f]),
    (0x2f981, [0x43d5]), (0x2f982, [0x80b2]), (0x2f983, [0x8103]),
    (0x2f984, [0x440b]), (0x2f985, [0x813e]), (0x2f986, [0x5ab5]),
    (0x2f987, [0x267a7]), (0x2f988, [0x267b5]), (0x2f989, [0x23393]),
    (0x2f98a, [0x2339c]), (0x2f98b, [0x8201]), (0x2f98c, [0x8204]),
    (0x2f98d, [0x8f9e]), (0x2f98e, [0x446b]), (0x2f98f, [0x8291]),
    (0x2f990, [0x828b]), (0x2f991, [0x829d]), (0x2f992, [0x52b3]),
    (0x2f993, [0x82b1]), (0x2f994, [0x82b3]), (0x2f995, [0x82bd]),
    (0x2f996, [0x82e6]), (0x2f997, [0x26b3c]), (0x2f998, [0x82e5]),
    (0x2f999, [0x831d]), (0x2f99a, [0x8363]), (0x2f99b, [0x83ad]),
    (0x2f99c, [0x8323]), (0x2f99d, [0x83bd]), (0x2f99e, [0x83e7]),
    (0x2f99f, [0x8457]), (0x2f9a0, [0x8353]), (0x2f9a1, [0x83ca]),
    (0x2f9a2, [0x83cc]), (0x2f9a3, [0x83dc]), (0x2f9a4, [0x26c36]),
    (0x2f9a5, [0x26d6b]), (0x2f9a6, [0x26cd5]), (0x2f9a7, [0x452b]),
    (0x2f9a8, [0x84f1]), (0x2f9a9, [0x84f3]), (0x2f9aa, [0x8516]),
    (0x2f9ab, [0x273ca]), (0x2f9ac, [0x8564]), (0x2f9ad, [0x26f2c]),
    (0x2f9ae, [0x455d]), (0x2f9af, [0x4561]), (0x2f9b0, [0x26fb1]),
    (0x2f9b1, [0x270d2]), (0x2f9b2, [0x456b]), (0x2f9b3, [0x8650]),
    (0x2f9b4, [0x865c]), (0x2f9b5, [0x8667]), (0x2f9b6, [0x8669]),
    (0x2f9b7, [0x86a9]), (0x2f9b8, [0x8688]), (0x2f9b9, [0x870e]),
    (0x2f9ba, [0x86e2]), (0x2f9bb, [0x8779]), (0x2f9bc, [0x8728]),
    (0x2f9bd, [0x876b]), (0x2f9be, [0x8786]), (0x2f9bf, [0x45d7]),
    (0x2f9c0, [0x87e1]), (0x2f9c1, [0x8801]), (0x2f9c2, [0x45f9]),
    (0x2f9c3, [0x8860]), (0x2f9c4, [0x8863]), (0x2f9c5, [0x27667]),
    (0x2f9c6, [0x88d7]), (0x2f9c7, [0x88de]), (0x2f9c8, [0x4635]),
    (0x2f9c9, [0x88fa]), (0x2f9ca, [0x34bb]), (0x2f9cb, [0x278ae]),
    (0x2f9cc, [0x27966]), (0x2f9cd, [0x46be]), (0x2f9ce, [0x46c7]),
    (0x2f9cf, [0x8aa0]), (0x2f9d0, [0x8aed]), (0x2f9d1, [0x8b8a]),
    (0x2f9d2, [0x8c55]), (0x2f9d3, [0x27ca8]), (0x2f9d4, [0x8cab]),
    (0x2f9d5, [0x8cc1]), (0x2f9d6, [0x8d1b]), (0x2f9d7, [0x8d77]),
    (0x2f9d8, [0x27f2f]), (0x2f9d9, [0x20804]), (0x2f9da, [0x8dcb]),
    (0x2f9db, [0x8dbc]), (0x2f9dc, [0x8df0]), (0x2f9dd, [0x208de]),
    (0x2f9de, [0x8ed4]), (0x2f9df, [0x8f38]), (0x2f9e0, [0x285d2]),
    (0x2f9e1, [0x285ed]), (0x2f9e2, [0x9094]), (0x2f9e3, [0x90f1]),
    (0x2f9e4, [0x9111]), (0x2f9e5, [0x2872e]), (0x2f9e6, [0x911b]),
    (0x2f9e7, [0x9238]), (0x2f9ea, [0x927c]), (0x2f9eb, [0x93f9]),
    (0x2f9ec, [0x9415]), (0x2f9ed, [0x28bfa]), (0x2f9ee, [0x958b]),
    (0x2f9ef, [0x4995]), (0x2f9f0, [0x95b7]), (0x2f9f1, [0x28d77]),
    (0x2f9f2, [0x49e6]), (0x2f9f3, [0x96c3]), (0x2f9f4, [0x5db2]),
    (0x2f9f5, [0x9723]), (0x2f9f6, [0x29145]), (0x2f9f7, [0x2921a]),
    (0x2f9f8, [0x4a6e]), (0x2f9f9, [0x4a76]), (0x2f9fa, [0x97e0]),
    (0x2f9fb, [0x2940a]), (0x2f9fc, [0x4ab2]), (0x2f9fd, [0x29496]),
    (0x2f9fe, [0x980b]), (0x2f9ff, [0x980b]), (0x2fa00, [0x9829]),
    (0x2fa01, [0x295b6]), (0x2fa02, [0x98e2]), (0x2fa03, [0x4b33]),
    (0x2fa04, [0x9929]), (0x2fa05, [0x99a7]), (0x2fa06, [0x99c2]),
    (0x2fa07, [0x99fe]), (0x2fa08, [0x4bce]), (0x2fa09, [0x29b30]),
    (0x2fa0a, [0x9b12]), (0x2fa0b, [0x9c40]), (0x2fa0c, [0x9cfd]),
    (0x2fa0d, [0x4cce]), (0x2fa0e, [0x4ced]), (0x2fa0f, [0x9d67]),
    (0x2fa10, [0x2a0ce]), (0x2fa11, [0x4cf8]), (0x2fa12, [0x2a105]),
    (0x2fa13, [0x2a20e]), (0x2fa14, [0x2a291]), (0x2fa15, [0x9ebb]),
    (0x2fa16, [0x4d56]), (0x2fa17, [0x9ef9]), (0x2fa18, [0x9efe]),
    (0x2fa19, [0x9f05]), (0x2fa1a, [0x9f0f]), (0x2fa1b, [0x9f16]),
    (0x2fa1c, [0x9f3b]), (0x2fa1d, [0x2a600])]

/-- Single characters that are replaced, with their replacements. -/
def mapped : List (Nat × List Nat) :=
  mapped1 ++ mapped2 ++ mapped3 ++ mapped4 ++ mapped5 ++ mapped6 ++ mapped7 ++
    mapped8 ++
    mapped9 ++ mapped10 ++ mapped11 ++ mapped12 ++ mapped13 ++ mapped14

def mappedRuns1 : List (Nat × Nat × Nat × List Nat) :=
  [(0xb2, 2, 1, [0x32]), (0xc0, 23, 1, [0xe0]), (0xd8, 7, 1, [0xf8]),
    (0x100, 24, 2, [0x101]), (0x134, 2, 2, [0x135]), (0x139, 3, 2, [0x13a]),
    (0x141, 4, 2, [0x142]), (0x14a, 23, 2, [0x14b]), (0x179, 3, 2, [0x17a]),
    (0x182, 2, 2, [0x183]), (0x189, 2, 1, [0x256]), (0x1a0, 3, 2, [0x1a1]),
    (0x1b1, 2, 1, [0x28a]), (0x1b3, 2, 2, [0x1b4]), (0x1cd, 8, 2, [0x1ce]),
    (0x1de, 9, 2, [0x1df]), (0x1f8, 20, 2, [0x1f9]), (0x222, 9, 2, [0x223]),
    (0x246, 5, 2, [0x247]), (0x340, 2, 1, [0x300]), (0x370, 2, 2, [0x371]),
    (0x388, 3, 1, [0x3ad]), (0x38e, 2, 1, [0x3cd]), (0x391, 17, 1, [0x3b1]),
    (0x3a3, 9, 1, [0x3c3]), (0x3d8, 12, 2, [0x3d9]), (0x3fd, 3, 1, [0x37b]),
    (0x400, 16, 1, [0x450]), (0x410, 32, 1, [0x430]), (0x460, 17, 2, [0x461]),
    (0x48a, 27, 2, [0x48b]), (0x4c1, 7, 2, [0x4c2]), (0x4d0, 48, 2, [0x4d1]),
    (0x531, 38, 1, [0x561]), (0x10a0, 38, 1, [0x2d00]), (0x115f, 2, 1, []),
    (0x13f8, 6, 1, [0x13f0]), (0x17b4, 2, 1, []), (0x180b, 5, 1, []),
    (0x1c83, 2, 1, [0x441]), (0x1c90, 43, 1, [0x10d0]),
    (0x1cbd, 3, 1, [0x10fd]), (0x1d2e, 2, 2, [0x62]), (0x1d33, 8, 1, [0x67]),
    (0x1d40, 2, 1, [0x74]), (0x1d44, 2, 1, [0x250]), (0x1d48, 2, 1, [0x64]),
    (0x1d4b, 2, 1, [0x25b]), (0x1d54, 2, 1, [0x1d16]), (0x1d57, 2, 1, [0x74]),
    (0x1d5d, 3, 1, [0x3b2]), (0x1d60, 2, 1, [0x3c6]), (0x1d64, 2, 1, [0x75]),
    (0x1d66, 2, 1, [0x3b2]), (0x1d69, 2, 1, [0x3c6]), (0x1da4, 3, 1, [0x268]),
    (0x1dae, 4, 1, [0x272]), (0x1db3, 2, 1, [0x282]), (0x1db6, 2, 1, [0x289]),
    (0x1db9, 2, 1, [0x28b]), (0x1dbc, 3, 1, [0x290]), (0x1e00, 75, 2, [0x1e01]),
    (0x1ea0, 48, 2, [0x1ea1]), (0x1f08, 8, 1, [0x1f00]),
    (0x1f18, 6, 1, [0x1f10]), (0x1f28, 8, 1, [0x1f20]),
    (0x1f38, 8, 1, [0x1f30]), (0x1f48, 6, 1, [0x1f40]),
    (0x1f59, 4, 2, [0x1f51]), (0x1f68, 8, 1, [0x1f60]),
    (0x1fb8, 2, 1, [0x1fb0]), (0x1fd8, 2, 1, [0x1fd0]),
    (0x1fe8, 2, 1, [0x1fe0]), (0x2060, 5, 1, []), (0x206a, 6, 1, []),
    (0x2074, 6, 1, [0x34]), (0x207d, 2, 1, [0x28]), (0x2080, 10, 1, [0x30]),
    (0x208d, 2, 1, [0x28]), (0x2096, 4, 1, [0x6b]), (0x209b, 2, 1, [0x73]),
    (0x210a, 2, 1, [0x67]), (0x2113, 2, 2, [0x6c]), (0x2119, 3, 1, [0x70]),
    (0x212c, 2, 1, [0x62]), (0x2130, 2, 1, [0x65]), (0x2135, 4, 1, [0x5d0]),
    (0x2146, 2, 1, [0x64]), (0x2148, 2, 1, [0x69]), (0x216d, 2, 1, [0x63]),
    (0x217d, 2, 1, [0x63]), (0x2329, 2, 1, [0x3008]), (0x2460, 9, 1, [0x31]),
    (0x24b6, 26, 1, [0x61]), (0x24d0, 26, 1, [0x61]), (0x2c00, 48, 1, [0x2c30]),
    (0x2c67, 3, 2, [0x2c68]), (0x2c7e, 2, 1, [0x23f]),
    (0x2c80, 50, 2, [0x2c81]), (0x2ceb, 2, 2, [0x2cec]),
    (0x3039, 2, 1, [0x5344]), (0x3131, 2, 1, [0x1100]),
    (0x3135, 2, 1, [0x11ac]), (0x3137, 3, 1, [0x1103]),
    (0x313a, 6, 1, [0x11b0]), (0x3141, 3, 1, [0x1106]),
    (0x3145, 10, 1, [0x1109]), (0x314f, 21, 1, [0x1161]),
    (0x3165, 2, 1, [0x1114]), (0x3167, 2, 1, [0x11c7]),
    (0x3171, 2, 1, [0x111d]), (0x3174, 2, 1, [0x1122]),
    (0x3178, 5, 1, [0x112b]), (0x3182, 2, 1, [0x11f1]),
    (0x3184, 3, 1, [0x1157]), (0x3187, 2, 1, [0x1184]),
    (0x318a, 2, 1, [0x1191]), (0x3261, 2, 1, [0x1102]),
    (0x3263, 3, 1, [0x1105]), (0x3267, 2, 1, [0x110b]),
    (0x3269, 5, 1, [0x110e]), (0x32d4, 2, 1, [0x30aa]),
    (0x32e4, 6, 1, [0x30ca]), (0x32ee, 5, 1, [0x30de]),
    (0x32f5, 6, 1, [0x30e8]), (0x32fb, 4, 1, [0x30ef]),
    (0xa640, 23, 2, [0xa641]), (0xa680, 14, 2, [0xa681]),
    (0xa722, 7, 2, [0xa723]), (0xa732, 31, 2, [0xa733]),
    (0xa779, 2, 2, [0xa77a]), (0xa77e, 5, 2, [0xa77f]),
    (0xa790, 2, 2, [0xa791]), (0xa796, 10, 2, [0xa797]),
    (0xa7b4, 8, 2, [0xa7b5]), (0xa7c7, 2, 2, [0xa7c8]),
    (0xa7cc, 8, 2, [0xa7cd]), (0xab70, 80, 1, [0x13a0]),
    (0xfa52, 2, 1, [0x798d]), (0xfb22, 2, 1, [0x5d3]), (0xfb24, 3, 1, [0x5db]),
    (0xfb7d, 2, 1, [0x686]), (0xfb9f, 2, 1, [0x6ba]), (0xfba5, 2, 1, [0x6c0]),
    (0xfbaf, 2, 1, [0x6d2]), (0xfe00, 16, 1, []), (0xfe13, 2, 1, [0x3a]),
    (0xfe17, 2, 1, [0x3016]), (0xfe35, 2, 1, [0x28]), (0xfe39, 2, 1, [0x3014]),
    (0xfe3b, 2, 1, [0x3010]), (0xfe3d, 2, 1, [0x300a]),
    (0xfe3f, 2, 1, [0x3008]), (0xfe41, 4, 1, [0x300c]), (0xfe59, 2, 1, [0x28]),
    (0xfe5d, 2, 1, [0x3014]), (0xfe61, 2, 1, [0x2a]), (0xfe69, 2, 1, [0x24]),
    (0xfe80, 2, 1, [0x621]), (0xfe82, 2, 1, [0x622]), (0xfe84, 2, 1, [0x623]),
    (0xfe86, 2, 1, [0x624]), (0xfe88, 2, 1, [0x625]), (0xfe8c, 2, 1, [0x626]),
    (0xfe8e, 2, 1, [0x627]), (0xfe92, 2, 1, [0x628]), (0xfe94, 2, 1, [0x629]),
    (0xfe98, 2, 1, [0x62a]), (0xfe9c, 2, 1, [0x62b]), (0xfea0, 2, 1, [0x62c]),
    (0xfea4, 2, 1, [0x62d]), (0xfea8, 2, 1, [0x62e]), (0xfeaa, 2, 1, [0x62f]),
    (0xfeac, 2, 1, [0x630]), (0xfeae, 2, 1, [0x631]), (0xfeb0, 2, 1, [0x632]),
    (0xfeb4, 2, 1, [0x633]), (0xfeb8, 2, 1, [0x634]), (0xfebc, 2, 1, [0x635]),
    (0xfec0, 2, 1, [0x636]), (0xfec4, 2, 1, [0x637]), (0xfec8, 2, 1, [0x638]),
    (0xfecc, 2, 1, [0x639]), (0xfed4, 2, 1, [0x641]), (0xfed8, 2, 1, [0x642]),
    (0xfedc, 2, 1, [0x643]), (0xfee0, 2, 1, [0x644]), (0xfee4, 2, 1, [0x645]),
    (0xfee8, 2, 1, [0x646]), (0xfeec, 2, 1, [0x647]), (0xfeee, 2, 1, [0x648]),
    (0xfef0, 2, 1, [0x649]), (0xff01, 32, 1, [0x21]), (0xff21, 26, 1, [0x61]),
    (0xff3b, 36, 1, [0x5b]), (0xff5f, 2, 1, [0x2985]), (0xff62, 2, 1, [0x300c]),
    (0xff75, 2, 1, [0x30aa]), (0xff85, 6, 1, [0x30ca]),
    (0xff8f, 5, 1, [0x30de]), (0xff96, 6, 1, [0x30e8]),
    (0xff9e, 2, 1, [0x3099]), (0xffa1, 2, 1, [0x1100]),
    (0xffa5, 2, 1, [0x11ac]), (0xffa7, 3, 1, [0x1103]),
    (0xffaa, 6, 1, [0x11b0]), (0xffb1, 3, 1, [0x1106]),
    (0xffb5, 10, 1, [0x1109]), (0xffc2, 6, 1, [0x1161]),
    (0xffca, 6, 1, [0x1167]), (0xffd2, 6, 1, [0x116d]),
    (0xffda, 3, 1, [0x1173]), (0xffe0, 2, 1, [0xa2]), (0xffe9, 4, 1, [0x2190]),
    (0x10400, 40, 1, [0x10428]), (0x104b0, 36, 1, [0x104d8]),
    (0x10570, 11, 1, [0x10597]), (0x1057c, 15, 1, [0x105a3]),
    (0x1058c, 7, 1, [0x105b3]), (0x10594, 2, 1, [0x105bb]),
    (0x10781, 2, 1, [0x2d0]), (0x1078b, 2, 1, [0x256]),
    (0x10799, 2, 1, [0x2aa]), (0x107a3, 2, 1, [0x276]),
    (0x107a8, 2, 1, [0x27d]), (0x107b3, 2, 1, [0x2a1]),
    (0x107b6, 3, 1, [0x1c0]), (0x10c80, 51, 1, [0x10cc0]),
    (0x10d50, 22, 1, [0x10d70]), (0x118a0, 32, 1, [0x118c0]),
    (0x16e40, 32, 1, [0x16e60]), (0x16ea0, 25, 1, [0x16ebb]),
    (0x1bca0, 4, 1, []), (0x1ccd6, 26, 1, [0x61]), (0x1ccf0, 10, 1, [0x30]),
    (0x1d173, 8, 1, []), (0x1d400, 26, 1, [0x61]), (0x1d41a, 26, 1, [0x61]),
    (0x1d434, 26, 1, [0x61]), (0x1d44e, 7, 1, [0x61]), (0x1d456, 18, 1, [0x69]),
    (0x1d468, 26, 1, [0x61]), (0x1d482, 26, 1, [0x61]), (0x1d49c, 2, 2, [0x61]),
    (0x1d4a5, 2, 1, [0x6a]), (0x1d4a9, 4, 1, [0x6e]), (0x1d4ae, 8, 1, [0x73]),
    (0x1d4b6, 4, 1, [0x61]), (0x1d4bb, 2, 2, [0x66]), (0x1d4be, 6, 1, [0x69])]

def mappedRuns2 : List (Nat × Nat × Nat × List Nat) :=
  [(0x1d4c5, 11, 1, [0x70]), (0x1d4d0, 26, 1, [0x61]), (0x1d4ea, 26, 1, [0x61]),
    (0x1d504, 2, 1, [0x61]), (0x1d507, 4, 1, [0x64]), (0x1d50d, 8, 1, [0x6a]),
    (0x1d516, 7, 1, [0x73]), (0x1d51e, 26, 1, [0x61]), (0x1d538, 2, 1, [0x61]),
    (0x1d53b, 4, 1, [0x64]), (0x1d540, 5, 1, [0x69]), (0x1d54a, 7, 1, [0x73]),
    (0x1d552, 26, 1, [0x61]), (0x1d56c, 26, 1, [0x61]),
    (0x1d586, 26, 1, [0x61]), (0x1d5a0, 26, 1, [0x61]),
    (0x1d5ba, 26, 1, [0x61]), (0x1d5d4, 26, 1, [0x61]),
    (0x1d5ee, 26, 1, [0x61]), (0x1d608, 26, 1, [0x61]),
    (0x1d622, 26, 1, [0x61]), (0x1d63c, 26, 1, [0x61]),
    (0x1d656, 26, 1, [0x61]), (0x1d670, 26, 1, [0x61]),
    (0x1d68a, 26, 1, [0x61]), (0x1d6a8, 17, 1, [0x3b1]),
    (0x1d6ba, 7, 1, [0x3c3]), (0x1d6c2, 17, 1, [0x3b1]),
    (0x1d6d4, 7, 1, [0x3c3]), (0x1d6e2, 17, 1, [0x3b1]),
    (0x1d6f4, 7, 1, [0x3c3]), (0x1d6fc, 17, 1, [0x3b1]),
    (0x1d70e, 7, 1, [0x3c3]), (0x1d71c, 17, 1, [0x3b1]),
    (0x1d72e, 7, 1, [0x3c3]), (0x1d736, 17, 1, [0x3b1]),
    (0x1d748, 7, 1, [0x3c3]), (0x1d756, 17, 1, [0x3b1]),
    (0x1d768, 7, 1, [0x3c3]), (0x1d770, 17, 1, [0x3b1]),
    (0x1d782, 7, 1, [0x3c3]), (0x1d790, 17, 1, [0x3b1]),
    (0x1d7a2, 7, 1, [0x3c3]), (0x1d7aa, 17, 1, [0x3b1]),
    (0x1d7bc, 7, 1, [0x3c3]), (0x1d7ce, 10, 1, [0x30]),
    (0x1d7d8, 10, 1, [0x30]), (0x1d7e2, 10, 1, [0x30]),
    (0x1d7ec, 10, 1, [0x30]), (0x1d7f6, 10, 1, [0x30]),
    (0x1e030, 9, 1, [0x430]), (0x1e039, 3, 1, [0x43a]),
    (0x1e03c, 11, 1, [0x43e]), (0x1e048, 2, 1, [0x44d]),
    (0x1e051, 9, 1, [0x430]), (0x1e05a, 2, 1, [0x43a]),
    (0x1e05c, 2, 1, [0x43e]), (0x1e05f, 6, 1, [0x443]),
    (0x1e065, 2, 1, [0x44a]), (0x1e900, 34, 1, [0x1e922]),
    (0x1ee00, 2, 1, [0x627]), (0x1ee0a, 4, 1, [0x643]),
    (0x1ee15, 2, 1, [0x62a]), (0x1ee2a, 4, 1, [0x643]),
    (0x1ee35, 2, 1, [0x62a]), (0x1ee4b, 2, 2, [0x644]),
    (0x1ee6a, 2, 2, [0x643]), (0x1ee75, 2, 1, [0x62a]),
    (0x1ee80, 2, 1, [0x627]), (0x1ee84, 2, 1, [0x647]),
    (0x1ee8b, 3, 1, [0x644]), (0x1ee95, 2, 1, [0x62a]),
    (0x1eeab, 3, 1, [0x644]), (0x1eeb5, 2, 1, [0x62a]),
    (0x1f130, 26, 1, [0x61]), (0x1fbf0, 10, 1, [0x30]),
    (0x2f829, 2, 1, [0x5305]), (0x2f881, 2, 1, [0x5de1]),
    (0x2f8f5, 2, 1, [0x6bba]), (0x2f945, 2, 1, [0x771e]),
    (0x2f9e8, 2, 1, [0x92d7]), (0xe0100, 240, 1, [])]

/-- Runs of characters that are replaced. -/
def mappedRuns : List (Nat × Nat × Nat × List Nat) :=
  mappedRuns1 ++ mappedRuns2

end Errand.Domain.Table
