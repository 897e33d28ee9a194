import Stencil.Text.Category

/-! Properties of characters.

Each table holds the lengths of the runs of code points that lack and have the property, in
turn. -/
namespace Stencil.Text

/-- Letters and what is counted among them. -/
def alphabeticBounds : Bounds := .ofLengths [
  "65 26 6 26 47 1 10 1 4 1 5 23 1 31 1 458 4 12 14 5 7 1 1 1 86 1 42 5 1 2 2 4 1 1 6 1 1 3 1 ",
  "1 1 20 1 83 1 139 8 166 1 38 2 1 6 41 39 14 1 1 1 2 1 2 1 1 8 27 4 4 29 11 5 56 1 7 14 102 ",
  "1 8 4 8 4 3 10 3 2 1 16 48 13 101 24 33 9 2 4 1 5 24 2 19 19 25 7 11 5 24 1 6 17 42 10 12 3 ",
  "7 6 76 1 16 1 3 4 15 13 19 1 8 2 2 2 22 1 7 1 1 3 4 3 8 2 2 2 2 1 1 8 1 4 2 1 5 12 2 10 1 4 ",
  "3 1 6 4 2 2 22 1 7 1 2 1 2 1 2 4 5 4 2 2 2 4 1 7 4 1 1 17 6 11 3 1 9 1 3 1 22 1 7 1 2 1 5 3 ",
  "9 1 3 1 2 3 1 15 4 21 4 4 3 1 8 2 2 2 22 1 7 1 2 1 5 3 8 2 2 2 2 9 2 4 2 1 5 13 1 16 2 1 6 ",
  "3 3 1 4 3 2 1 1 1 2 3 2 3 3 3 12 4 5 3 3 1 3 3 1 6 1 40 13 1 3 1 23 1 16 3 8 1 3 1 3 8 2 1 ",
  "3 2 1 2 4 28 4 1 8 1 3 1 23 1 10 1 5 3 8 1 3 1 3 8 2 6 2 1 4 13 3 12 13 1 3 1 41 2 8 1 3 1 ",
  "3 1 1 5 4 7 5 22 6 1 3 1 18 3 24 1 9 1 1 2 7 8 6 1 1 1 8 18 2 13 58 5 7 6 1 51 2 1 1 1 5 1 ",
  "24 1 1 1 19 1 3 2 5 1 1 6 1 14 4 32 1 63 8 1 36 4 19 4 16 1 36 67 55 1 1 2 5 16 64 10 4 2 ",
  "38 1 1 5 1 2 43 1 333 1 4 2 7 1 1 1 4 2 41 1 4 2 33 1 4 2 7 1 1 1 4 2 15 1 57 1 4 2 67 37 ",
  "16 16 86 2 6 3 620 2 17 1 26 5 75 3 11 7 20 11 21 12 20 12 13 1 3 1 2 12 52 2 19 14 1 4 1 ",
  "67 89 7 43 5 70 10 31 1 12 4 9 23 30 2 5 11 44 4 26 54 28 4 63 2 20 50 1 23 2 11 3 49 52 1 ",
  "15 1 8 51 42 2 4 10 44 1 11 14 55 22 3 10 36 2 9 7 43 2 3 41 4 1 6 1 2 3 1 5 192 39 14 11 ",
  "278 2 6 2 38 2 6 2 8 1 1 1 1 1 1 1 31 2 53 1 7 1 1 3 3 1 7 3 4 2 6 4 13 5 3 1 7 116 1 13 1 ",
  "16 13 101 1 4 1 2 10 1 1 3 5 6 1 1 1 1 1 1 4 1 11 2 4 5 5 4 1 17 41 813 52 1814 229 6 4 3 2 ",
  "12 38 1 1 5 1 2 56 7 1 16 23 9 7 1 7 1 7 1 7 1 7 1 7 1 7 1 7 1 32 47 1 469 3 25 9 7 5 2 5 4 ",
  "86 6 3 1 90 1 4 5 43 1 94 17 32 48 16 512 6592 64 22157 67 46 2 269 3 16 10 2 20 47 5 8 3 ",
  "113 39 9 2 103 2 64 5 2 1 1 1 5 24 20 1 33 24 52 12 68 1 1 44 6 3 1 1 3 10 33 5 35 13 29 3 ",
  "51 1 12 15 1 16 16 10 5 1 55 9 14 18 23 3 69 1 1 1 1 24 3 2 16 2 4 11 6 2 6 2 6 9 7 1 7 1 ",
  "43 1 14 6 123 21 11172 12 23 4 49 8452 366 2 106 38 7 12 5 5 12 1 13 1 5 1 1 1 2 1 2 1 108 ",
  "33 363 18 64 2 54 40 12 116 5 1 135 36 26 6 26 11 89 3 6 2 6 2 6 2 3 35 12 1 26 1 19 1 2 1 ",
  "15 2 14 34 123 69 53 267 29 3 49 47 32 13 30 5 43 5 30 2 36 4 8 1 5 42 158 18 36 4 36 4 40 ",
  "8 52 12 11 1 15 1 7 1 2 1 11 1 15 1 7 1 2 67 311 9 22 10 8 24 6 1 42 1 9 69 6 2 1 1 44 1 2 ",
  "3 1 2 23 10 23 9 31 65 19 1 2 10 22 10 26 70 56 6 2 64 4 1 2 5 8 1 3 1 29 42 29 3 29 35 8 1 ",
  "28 27 54 10 22 10 19 13 18 110 73 55 51 13 51 13 40 344 42 1 2 3 2 78 29 10 1 8 22 42 18 46 ",
  "21 27 23 9 70 43 5 10 57 9 1 13 25 23 51 17 4 8 35 3 1 9 64 1 4 9 2 10 1 1 1 35 18 1 34 2 1 ",
  "6 4 62 7 1 1 1 4 1 15 1 10 7 57 23 4 1 8 2 2 2 22 1 7 1 2 1 5 3 8 2 2 2 2 3 1 6 1 5 7 156 ",
  "66 1 3 1 4 20 3 30 66 2 2 1 1 184 54 2 7 25 6 34 63 1 1 3 1 59 54 2 1 71 27 2 14 21 7 185 ",
  "57 103 64 31 8 2 1 2 8 1 2 1 30 1 2 2 2 2 4 93 8 2 46 2 6 1 1 1 2 27 51 2 10 17 72 5 1 18 ",
  "73 263 9 1 45 1 7 1 1 49 30 2 22 1 14 73 7 1 2 1 44 3 1 1 2 1 3 1 1 2 2 24 6 1 2 1 37 1 2 1 ",
  "4 1 1 327 23 9 17 1 41 3 3 111 1 79 922 102 111 17 196 2636 97 15 1072 17 6 4025 583 8633 ",
  "569 7 31 17 79 17 30 18 48 16 4 31 21 5 19 688 64 128 75 4 57 7 17 64 2 1 1 12 2 14 6136 8 ",
  "1238 42 9 8935 4 1 7 1 2 1 291 15 1 29 3 2 1 14 4 8 396 2308 107 5 13 3 9 7 10 4 1 5985 85 ",
  "1 71 1 2 2 1 2 2 2 4 1 12 1 1 1 7 1 65 1 4 2 8 1 7 1 28 1 4 1 5 1 1 3 7 1 340 2 25 1 25 1 ",
  "31 1 25 1 31 1 25 1 31 1 25 1 31 1 25 1 8 1844 31 6 6 213 7 1 17 2 7 1 2 1 5 5 62 33 1 112 ",
  "45 10 7 16 1 321 30 18 44 484 28 756 7 1 4 1 2 1 15 1 197 59 68 3 1 3 1 1204 4 1 27 1 2 1 1 ",
  "2 1 1 10 1 4 1 1 1 1 6 1 4 1 1 1 1 1 1 3 1 2 1 1 2 1 1 1 1 1 1 1 1 1 1 2 1 1 2 4 1 7 1 4 1 ",
  "4 1 1 1 10 1 17 5 3 1 5 1 17 628 26 6 26 6 26 3702 42720 32 4154 6 222 2 5762 14 7473 3103 ",
  "542 1506 4939 5 4192"
]

/-- Small letters and what is counted among them. -/
def lowercaseBounds : Bounds := .ofLengths [
  "97 26 47 1 10 1 4 1 36 24 1 8 1 1 1 1 1 1 1 1 1 1 1 1 1 1 1 1 1 1 1 1 1 1 1 1 1 1 1 1 1 1 1 ",
  "1 1 1 1 1 1 1 1 1 1 1 1 1 1 1 1 1 1 1 1 1 1 1 1 2 1 1 1 1 1 1 1 1 1 1 1 1 1 1 1 2 1 1 1 1 1 ",
  "1 1 1 1 1 1 1 1 1 1 1 1 1 1 1 1 1 1 1 1 1 1 1 1 1 1 1 1 1 1 1 1 1 1 1 1 1 1 1 1 1 2 1 1 1 1 ",
  "3 2 1 1 1 2 1 3 2 4 1 2 1 3 3 2 1 2 1 1 1 1 1 2 1 1 2 1 1 2 1 3 1 1 1 2 2 2 3 6 1 2 1 2 1 1 ",
  "1 1 1 1 1 1 1 1 1 1 1 1 1 1 2 1 1 1 1 1 1 1 1 1 1 1 1 1 1 1 1 1 2 2 1 1 1 3 1 1 1 1 1 1 1 1 ",
  "1 1 1 1 1 1 1 1 1 1 1 1 1 1 1 1 1 1 1 1 1 1 1 1 1 1 1 1 1 1 1 1 1 1 1 1 1 1 1 1 1 1 1 1 1 1 ",
  "1 1 1 1 7 2 1 2 2 1 1 4 1 1 1 1 1 1 1 1 69 1 36 7 2 30 5 96 1 43 1 1 1 3 1 2 4 18 1 27 35 1 ",
  "2 3 3 1 1 1 1 1 1 1 1 1 1 1 1 1 1 1 1 1 1 1 1 1 1 1 5 1 1 2 1 2 2 51 48 1 1 1 1 1 1 1 1 1 1 ",
  "1 1 1 1 1 1 1 1 1 1 1 1 1 1 1 1 1 1 1 1 1 1 1 1 9 1 1 1 1 1 1 1 1 1 1 1 1 1 1 1 1 1 1 1 1 1 ",
  "1 1 1 1 1 1 1 1 1 1 1 1 1 1 1 1 1 1 1 1 1 1 1 1 1 1 1 1 1 1 1 1 2 1 1 1 1 1 1 1 1 1 1 1 1 2 ",
  "1 1 1 1 1 1 1 1 1 1 1 1 1 1 1 1 1 1 1 1 1 1 1 1 1 1 1 1 1 1 1 1 1 1 1 1 1 1 1 1 1 1 1 1 1 1 ",
  "1 1 1 1 1 1 1 1 1 1 1 1 1 1 1 1 1 1 1 1 1 1 1 1 1 1 1 1 1 1 1 1 1 1 1 1 1 1 1 1 1 1 1 1 1 1 ",
  "1 1 1 1 48 41 2887 43 1 4 760 6 2178 9 119 192 65 1 1 1 1 1 1 1 1 1 1 1 1 1 1 1 1 1 1 1 1 1 ",
  "1 1 1 1 1 1 1 1 1 1 1 1 1 1 1 1 1 1 1 1 1 1 1 1 1 1 1 1 1 1 1 1 1 1 1 1 1 1 1 1 1 1 1 1 1 1 ",
  "1 1 1 1 1 1 1 1 1 1 1 1 1 1 1 1 1 1 1 1 1 1 1 1 1 1 1 1 1 1 1 1 1 1 1 1 1 1 1 1 1 1 1 1 1 1 ",
  "1 1 1 1 1 1 1 1 1 1 1 1 1 1 1 1 1 1 1 1 1 1 1 1 1 1 1 1 1 1 1 1 1 1 1 9 1 1 1 1 1 1 1 1 1 1 ",
  "1 1 1 1 1 1 1 1 1 1 1 1 1 1 1 1 1 1 1 1 1 1 1 1 1 1 1 1 1 1 1 1 1 1 1 1 1 1 1 1 1 1 1 1 1 1 ",
  "1 1 1 1 1 1 1 1 1 1 1 1 1 1 1 1 1 1 1 1 1 1 1 1 1 1 1 1 1 1 1 1 1 1 1 1 1 1 1 1 1 9 8 6 10 ",
  "8 8 8 8 6 10 8 8 8 8 14 2 8 8 8 8 8 8 5 1 2 6 1 3 3 1 2 8 4 2 2 8 8 10 3 1 2 121 1 13 1 16 ",
  "13 109 1 3 2 3 1 27 1 4 1 4 1 2 2 8 4 4 1 33 16 4 1 843 26 1862 48 1 1 3 2 1 1 1 1 1 1 4 1 ",
  "1 2 1 8 3 1 1 1 1 1 1 1 1 1 1 1 1 1 1 1 1 1 1 1 1 1 1 1 1 1 1 1 1 1 1 1 1 1 1 1 1 1 1 1 1 1 ",
  "1 1 1 1 1 1 1 1 1 1 1 1 1 1 1 1 1 1 1 1 1 1 1 1 1 1 1 1 1 1 1 1 1 1 1 1 1 1 1 1 1 1 1 1 1 1 ",
  "1 1 1 1 1 1 1 1 1 1 1 2 7 1 1 1 4 1 12 38 1 1 5 1 30995 1 1 1 1 1 1 1 1 1 1 1 1 1 1 1 1 1 1 ",
  "1 1 1 1 1 1 1 1 1 1 1 1 1 1 1 1 1 1 1 1 1 1 1 1 1 1 1 19 1 1 1 1 1 1 1 1 1 1 1 1 1 1 1 1 1 ",
  "1 1 1 1 1 1 1 1 1 3 133 1 1 1 1 1 1 1 1 1 1 1 1 3 1 1 1 1 1 1 1 1 1 1 1 1 1 1 1 1 1 1 1 1 1 ",
  "1 1 1 1 1 1 1 1 1 1 1 1 1 1 1 1 1 1 1 1 1 1 1 1 1 1 1 1 1 1 1 1 1 1 1 1 1 1 1 1 10 1 1 1 1 ",
  "2 1 1 1 1 1 1 1 1 1 4 1 1 1 2 1 1 3 1 1 1 1 1 1 1 1 1 1 1 1 1 1 1 1 1 1 1 1 5 1 5 1 1 1 1 1 ",
  "1 1 1 1 1 1 1 1 1 1 4 1 1 1 6 1 1 1 1 1 1 1 1 1 24 3 1 1 1 3 821 43 1 14 6 80 20288 7 12 5 ",
  "1065 26 1229 40 136 36 155 11 1 15 1 7 1 2 451 1 2 3 1 42 1 9 1285 51 3021 32 21888 32 ",
  "26010 26 26 7 1 18 26 26 26 4 1 1 1 7 1 11 26 26 26 26 26 26 26 26 26 26 26 26 26 26 26 26 ",
  "26 28 28 25 1 6 26 25 1 6 26 25 1 6 26 25 1 6 26 25 1 6 1 1 1844 10 1 20 6 6 261 62 2228 34"
]

/-- Capital letters and what is counted among them. -/
def uppercaseBounds : Bounds := .ofLengths [
  "65 26 101 23 1 7 33 1 1 1 1 1 1 1 1 1 1 1 1 1 1 1 1 1 1 1 1 1 1 1 1 1 1 1 1 1 1 1 1 1 1 1 1 ",
  "1 1 1 1 1 1 1 1 1 1 1 1 1 1 1 1 1 1 1 2 1 1 1 1 1 1 1 1 1 1 1 1 1 1 1 2 1 1 1 1 1 1 1 1 1 1 ",
  "1 1 1 1 1 1 1 1 1 1 1 1 1 1 1 1 1 1 1 1 1 1 1 1 1 1 1 1 1 1 1 1 1 1 1 1 2 1 1 1 1 3 2 1 1 1 ",
  "2 1 3 2 4 1 2 1 3 3 2 1 2 1 1 1 1 1 2 1 1 2 1 1 2 1 3 1 1 1 2 3 1 7 1 2 1 2 1 2 1 1 1 1 1 1 ",
  "1 1 1 1 1 1 1 1 1 2 1 1 1 1 1 1 1 1 1 1 1 1 1 1 1 1 1 2 1 2 1 1 3 1 1 1 1 1 1 1 1 1 1 1 1 1 ",
  "1 1 1 1 1 1 1 1 1 1 1 1 1 1 1 1 1 1 1 1 1 1 1 1 1 1 1 1 1 1 1 1 1 1 1 1 1 1 1 1 1 1 1 1 1 7 ",
  "2 1 2 2 1 1 4 1 1 1 1 1 1 1 1 289 1 1 1 3 1 8 1 6 1 1 3 1 1 1 2 1 17 1 9 35 1 2 3 3 1 1 1 1 ",
  "1 1 1 1 1 1 1 1 1 1 1 1 1 1 1 1 1 1 1 5 1 2 1 1 2 2 51 48 1 1 1 1 1 1 1 1 1 1 1 1 1 1 1 1 1 ",
  "1 1 1 1 1 1 1 1 1 1 1 1 1 1 1 1 9 1 1 1 1 1 1 1 1 1 1 1 1 1 1 1 1 1 1 1 1 1 1 1 1 1 1 1 1 1 ",
  "1 1 1 1 1 1 1 1 1 1 1 1 1 1 1 1 1 1 1 1 1 1 1 1 1 2 1 1 1 1 1 1 1 1 1 1 1 1 2 1 1 1 1 1 1 1 ",
  "1 1 1 1 1 1 1 1 1 1 1 1 1 1 1 1 1 1 1 1 1 1 1 1 1 1 1 1 1 1 1 1 1 1 1 1 1 1 1 1 1 1 1 1 1 1 ",
  "1 1 1 1 1 1 1 1 1 1 1 1 1 1 1 1 1 1 1 1 1 1 1 1 1 1 1 1 1 1 1 1 1 1 1 1 1 1 1 1 1 1 2 38 ",
  "2889 38 1 1 5 1 722 86 2202 43 2 3 320 1 1 1 1 1 1 1 1 1 1 1 1 1 1 1 1 1 1 1 1 1 1 1 1 1 1 ",
  "1 1 1 1 1 1 1 1 1 1 1 1 1 1 1 1 1 1 1 1 1 1 1 1 1 1 1 1 1 1 1 1 1 1 1 1 1 1 1 1 1 1 1 1 1 1 ",
  "1 1 1 1 1 1 1 1 1 1 1 1 1 1 1 1 1 1 1 1 1 1 1 1 1 1 1 1 1 1 1 1 1 1 1 1 1 1 1 1 1 1 1 1 1 1 ",
  "1 1 1 1 1 1 1 1 1 1 1 1 1 1 1 1 1 1 1 1 1 1 1 1 1 1 1 1 1 1 1 9 1 1 1 1 1 1 1 1 1 1 1 1 1 1 ",
  "1 1 1 1 1 1 1 1 1 1 1 1 1 1 1 1 1 1 1 1 1 1 1 1 1 1 1 1 1 1 1 1 1 1 1 1 1 1 1 1 1 1 1 1 1 1 ",
  "1 1 1 1 1 1 1 1 1 1 1 1 1 1 1 1 1 1 1 1 1 1 1 1 1 1 1 1 1 1 1 1 1 1 1 1 1 9 8 8 6 10 8 8 8 ",
  "8 6 11 1 1 1 1 1 1 1 8 8 72 4 12 4 12 4 12 5 11 4 262 1 4 1 3 3 2 3 2 1 3 5 6 1 1 1 1 1 1 4 ",
  "2 4 10 2 5 1 26 16 19 1 818 26 1840 48 48 1 1 3 2 1 1 1 1 1 1 4 1 1 2 1 8 3 1 1 1 1 1 1 1 1 ",
  "1 1 1 1 1 1 1 1 1 1 1 1 1 1 1 1 1 1 1 1 1 1 1 1 1 1 1 1 1 1 1 1 1 1 1 1 1 1 1 1 1 1 1 1 1 1 ",
  "1 1 1 1 1 1 1 1 1 1 1 1 1 1 1 1 1 1 1 1 1 1 1 1 1 1 1 1 1 1 1 1 1 1 1 1 1 1 1 1 1 1 1 1 8 1 ",
  "1 1 4 1 31053 1 1 1 1 1 1 1 1 1 1 1 1 1 1 1 1 1 1 1 1 1 1 1 1 1 1 1 1 1 1 1 1 1 1 1 1 1 1 1 ",
  "1 1 1 1 1 1 19 1 1 1 1 1 1 1 1 1 1 1 1 1 1 1 1 1 1 1 1 1 1 1 1 1 1 1 135 1 1 1 1 1 1 1 1 1 ",
  "1 1 1 1 3 1 1 1 1 1 1 1 1 1 1 1 1 1 1 1 1 1 1 1 1 1 1 1 1 1 1 1 1 1 1 1 1 1 1 1 1 1 1 1 1 1 ",
  "1 1 1 1 1 1 1 1 1 1 1 1 1 1 1 1 1 1 1 1 10 1 1 1 1 2 1 1 1 1 1 1 1 1 4 1 1 1 2 1 1 1 3 1 1 ",
  "1 1 1 1 1 1 1 1 1 1 1 1 1 1 1 1 1 1 5 1 5 1 1 1 1 1 1 1 1 1 1 1 1 1 1 1 4 1 1 6 1 5 1 1 1 ",
  "28 1 22315 26 1221 40 136 36 156 11 1 15 1 7 1 2 1770 51 3053 32 21888 32 26016 26 26 26 26 ",
  "26 26 1 1 2 2 1 2 2 2 4 1 8 26 26 26 2 1 4 2 8 1 7 27 2 1 4 1 5 1 1 3 7 27 26 26 26 26 26 ",
  "26 26 26 26 26 26 30 25 33 25 33 25 33 25 33 25 33 1 4405 34 2062 26 6 26 6 26"
]

/-- Blank characters. -/
def whiteSpaceBounds : Bounds := .ofLengths [
  "9 5 18 1 100 1 26 1 5599 1 2431 11 29 2 5 1 47 1 4000 1"
]

/-- Marks that combine with the character before them. -/
def graphemeExtendBounds : Bounds := .ofLengths [
  "768 112 275 7 263 45 1 1 1 2 1 2 1 1 72 11 48 21 16 1 101 7 2 6 2 2 1 4 35 1 30 27 91 11 58 ",
  "9 9 1 24 4 1 9 1 3 1 5 43 3 60 8 42 24 1 32 55 1 1 1 4 8 4 1 3 7 10 2 29 1 58 1 1 1 2 4 8 1 ",
  "9 1 10 2 26 1 2 2 57 1 4 2 4 2 2 3 3 1 30 2 3 1 11 2 57 1 4 5 1 2 4 1 20 2 22 6 1 1 58 1 1 ",
  "2 1 4 8 1 7 3 10 2 30 1 59 1 1 1 12 1 9 1 40 1 3 1 55 1 1 3 5 3 1 4 7 2 11 2 29 1 58 1 2 1 ",
  "2 1 3 1 5 2 7 2 11 2 28 2 57 2 1 1 2 4 8 1 9 1 10 2 29 1 72 1 4 1 2 3 1 1 8 1 81 1 2 7 12 8 ",
  "98 1 2 9 11 7 73 2 27 1 1 1 1 1 55 14 1 5 1 2 5 11 1 36 9 1 102 4 1 6 1 2 2 2 25 2 4 3 16 4 ",
  "13 1 2 2 6 1 15 1 703 3 946 3 29 2 30 2 30 2 64 2 1 7 8 1 2 11 9 1 45 3 1 1 117 2 34 1 118 ",
  "3 4 2 9 1 6 3 219 2 2 1 58 1 1 7 1 1 1 1 2 8 6 10 2 1 48 31 49 4 48 7 1 1 5 1 40 9 12 2 32 ",
  "4 2 2 1 3 56 1 1 2 3 1 1 3 58 8 2 2 152 3 1 13 1 7 4 1 6 1 3 2 198 64 524 1 195 33 3070 3 ",
  "141 1 96 32 554 6 105 2 30164 4 1 10 32 2 80 2 272 1 3 1 4 1 25 2 5 1 151 2 26 18 13 1 38 8 ",
  "25 11 46 3 48 1 2 4 2 2 39 1 67 6 2 2 2 2 12 1 8 1 47 1 51 1 1 3 2 2 5 2 1 1 42 2 8 1 238 1 ",
  "2 1 4 1 20272 1 737 16 16 16 366 2 605 1 226 1 149 5 1670 3 1 2 5 4 40 3 4 1 165 2 573 4 ",
  "387 2 80 3 70 11 49 4 123 1 54 15 41 1 2 2 10 3 49 4 2 2 7 1 61 3 36 5 1 8 62 1 12 2 52 9 ",
  "10 4 2 1 95 3 2 1 1 2 6 1 2 1 157 1 3 8 21 2 57 2 1 1 1 1 22 1 14 7 3 5 195 8 2 3 1 1 23 1 ",
  "81 1 2 6 1 1 2 1 1 2 1 2 235 1 2 4 6 2 1 2 27 2 85 8 2 1 1 2 106 1 1 1 2 6 1 1 101 3 2 4 1 ",
  "5 259 9 1 2 245 1 10 2 1 1 4 1 144 4 2 2 4 1 32 10 40 6 2 4 8 1 9 6 2 3 46 13 1 2 406 7 1 6 ",
  "1 1 82 22 2 7 1 2 1 2 122 6 3 1 1 2 1 7 1 1 72 2 3 1 1 1 347 2 11 2 52 5 5 1 1 1 5373 1 6 ",
  "15 13978 5 59 7 1048 1 63 4 81 1 19640 2 4705 46 2 23 542 1 1 3 4 5 8 8 2 7 30 4 148 3 1979 ",
  "55 4 50 8 1 14 1 22 5 1 15 1360 7 1 17 2 7 1 2 1 5 100 1 160 7 375 1 61 4 508 4 992 7 109 7 ",
  "792277 96 128 240"
]

/-- Joiners without a width. -/
def joinControlBounds : Bounds := .ofLengths [
  "8204 2"
]

/-- Characters that come in small and capital forms. -/
def casedBounds : Bounds := .ofLengths [
  "65 26 6 26 47 1 10 1 4 1 5 23 1 31 1 195 1 4 4 208 1 36 7 2 30 5 96 1 42 4 2 2 2 4 1 1 6 1 ",
  "1 3 1 1 1 20 1 83 1 139 8 166 1 38 9 41 2839 38 1 1 5 1 2 43 1 4 672 86 2 6 2178 9 7 43 2 3 ",
  "64 192 64 278 2 6 2 38 2 6 2 8 1 1 1 1 1 1 1 31 2 53 1 7 1 1 3 3 1 7 3 4 2 6 4 13 5 3 1 7 ",
  "116 1 13 1 16 13 101 1 4 1 2 10 1 1 3 5 6 1 1 1 1 1 1 4 1 6 4 1 2 4 5 5 4 1 17 32 3 2 817 ",
  "52 1814 229 6 4 3 2 12 38 1 1 5 1 30994 46 18 30 132 102 3 4 1 59 5 2 1 1 1 5 24 5 1 3 821 ",
  "43 1 14 6 80 20288 7 12 5 1033 26 6 26 1189 80 96 36 4 36 116 11 1 15 1 7 1 2 1 11 1 15 1 7 ",
  "1 2 451 1 2 3 1 42 1 9 1221 51 13 51 2989 64 21856 64 25984 85 1 71 1 2 2 1 2 2 2 4 1 12 1 ",
  "1 1 7 1 65 1 4 2 8 1 7 1 28 1 4 1 5 1 1 3 7 1 340 2 25 1 25 1 31 1 25 1 31 1 25 1 31 1 25 1 ",
  "31 1 25 1 8 1844 10 1 20 6 6 261 62 2194 68 2028 26 6 26 6 26"
]

/-- Characters that are passed over when the end of a word is looked for. -/
def caseIgnorableBounds : Bounds := .ofLengths [
  "39 1 6 1 11 1 35 1 1 1 71 1 4 1 1 1 4 1 2 2 503 192 4 2 4 1 9 2 1 1 251 7 207 1 5 1 49 45 1 ",
  "1 1 2 1 2 1 1 44 1 11 6 10 11 1 1 35 1 10 21 16 1 101 8 1 10 1 4 33 1 1 1 30 27 91 11 58 11 ",
  "4 1 2 1 24 24 43 3 44 1 7 2 6 8 41 58 55 1 1 1 4 8 4 1 3 7 10 2 13 1 15 1 58 1 4 4 8 1 20 2 ",
  "26 1 2 2 57 1 4 2 4 2 2 3 3 1 30 2 3 1 11 2 57 1 4 5 1 2 4 1 20 2 22 6 1 1 58 1 2 1 1 4 8 1 ",
  "7 2 11 2 30 1 61 1 12 1 50 1 3 1 55 1 1 3 5 3 1 4 7 2 11 2 29 1 58 1 2 1 6 1 5 2 20 2 28 2 ",
  "57 2 4 4 8 1 20 2 29 1 72 1 7 3 1 1 90 1 2 7 11 9 98 1 2 9 9 1 1 7 73 2 27 1 1 1 1 1 55 14 ",
  "1 5 1 2 5 11 1 36 9 1 102 4 1 6 1 2 2 2 25 2 4 3 16 4 13 1 2 2 6 1 15 1 94 1 608 3 946 3 29 ",
  "2 30 2 30 2 64 2 1 7 8 1 2 11 3 1 5 1 45 5 51 1 65 2 34 1 118 3 4 2 9 1 6 3 219 2 2 1 58 1 ",
  "1 7 1 1 1 1 2 8 6 10 2 1 39 1 8 31 49 4 48 1 1 5 1 1 5 1 40 9 12 2 32 4 2 2 1 3 56 1 1 2 3 ",
  "1 1 3 58 8 2 2 64 6 82 3 1 13 1 7 4 1 6 1 3 2 50 63 13 1 34 101 445 1 1 3 11 3 13 3 13 3 13 ",
  "2 12 5 8 2 10 1 2 1 2 5 49 5 1 10 1 1 13 1 16 13 51 33 2955 2 113 3 125 1 15 1 96 32 47 1 ",
  "469 1 36 4 3 5 5 1 93 6 93 3 28438 1 1250 6 270 1 98 4 1 10 1 1 28 4 80 2 14 34 78 1 23 3 ",
  "103 3 3 2 8 1 3 1 4 1 25 2 5 1 151 2 26 18 13 1 38 8 25 11 46 3 48 1 2 4 2 2 17 1 21 2 66 6 ",
  "2 2 2 2 12 1 8 1 35 1 11 1 51 1 1 3 2 2 5 2 1 1 27 1 14 2 5 2 1 1 100 5 9 3 121 1 2 1 4 1 ",
  "20272 1 147 17 573 16 3 1 12 16 34 1 2 1 169 1 7 1 6 1 11 1 35 1 1 1 47 1 45 2 67 1 21 3 ",
  "513 1 226 1 149 5 1029 6 1 42 1 9 582 3 1 2 5 4 40 3 4 1 165 2 573 4 387 2 80 3 70 11 49 4 ",
  "123 1 54 15 41 1 2 2 10 3 49 4 2 2 2 1 4 1 10 1 50 3 36 5 1 8 62 1 12 2 52 9 10 4 2 1 95 3 ",
  "2 1 1 2 6 1 2 1 157 1 3 8 21 2 57 2 3 1 37 7 3 5 195 8 2 3 1 1 23 1 84 6 1 1 4 2 1 2 238 4 ",
  "6 2 1 2 27 2 85 8 2 1 1 2 106 1 1 1 2 6 1 1 101 3 2 4 1 5 259 9 1 2 256 2 1 1 4 1 144 4 2 2 ",
  "4 1 32 10 40 6 2 4 8 1 9 6 2 3 46 13 1 2 406 7 1 6 1 1 82 22 2 7 1 2 1 2 122 6 3 1 1 2 1 7 ",
  "1 1 72 2 3 1 1 1 347 2 11 2 52 5 5 1 1 1 5357 17 6 15 13978 5 59 7 9 4 1035 1 63 17 64 2 1 ",
  "2 16395 4 1 7 1 2 3230 2 1 4 4700 46 2 23 544 3 9 16 2 7 30 4 148 3 1979 55 4 50 8 1 14 1 ",
  "22 5 1 15 1360 7 1 17 2 7 1 2 1 5 5 62 33 1 160 14 368 1 61 4 507 5 992 7 109 8 2735 5 ",
  "789505 1 30 96 128 240"
]

/-- Ideographs. -/
def ideographicBounds : Bounds := .ofLengths [
  "12294 2 25 9 14 3 965 6592 64 20992 22784 366 2 106 29962 1 27 6136 8 1238 42 9 9319 396 ",
  "19716 42720 32 4154 6 222 2 5762 14 7473 3103 542 1506 4939 5 4192"
]

/-- Dashes. -/
def dashBounds : Bounds := .ofLengths [
  "45 1 1372 1 51 1 3649 1 1029 1 2057 6 61 1 39 1 15 1 390 1 3076 1 2 1 31 2 4 1 28 1 446 1 ",
  "19 1 111 1 52624 2 37 1 10 1 169 1 3999 1"
]

/-- Digits of base sixteen, of either width. -/
def hexDigitBounds : Bounds := .ofLengths [
  "48 10 7 6 26 6 65193 10 7 6 26 6"
]

/-- Emoji. -/
def emojiBounds : Bounds := .ofLengths [
  "35 1 6 1 5 10 111 1 4 1 8077 1 12 1 216 1 22 1 90 6 15 2 367 2 12 1 166 1 25 11 4 3 199 1 ",
  "231 2 10 1 9 1 58 4 1 5 9 1 2 1 2 2 2 1 4 1 2 1 1 2 2 1 3 1 3 2 8 3 5 1 1 1 5 12 11 2 2 1 1 ",
  "2 1 1 18 1 2 2 18 6 1 1 1 2 3 2 5 1 2 2 4 2 11 2 5 2 2 1 5 2 1 1 1 2 20 2 5 6 1 4 2 1 4 1 2 ",
  "1 2 6 1 1 2 1 1 1 1 1 6 1 3 1 6 1 10 2 15 1 2 1 4 1 1 1 4 3 1 1 11 2 48 3 9 1 14 1 14 1 372 ",
  "2 463 3 19 2 51 1 4 1 1242 1 12 1 601 1 1 1 114026 1 202 1 160 2 12 2 14 1 2 10 75 26 1 2 ",
  "23 1 20 1 2 9 21 2 174 34 2 112 2 2 1 3 2 83 2 3 1 263 1 63 11 6 1 24 7 2 2 8 12 1 2 4 2 1 ",
  "4 2 13 2 2 1 8 2 9 1 5 3 12 3 8 3 2 1 1 1 4 1 6 1 3 1 6 86 48 70 5 8 2 3 4 10 3 1 1 2 3 1 2 ",
  "10 227 12 4 1 283 47 1 10 1 185 112 13 3 9 7 46 1 7 8 14 4 9 7 9"
]

/-- Characters used in mathematics. -/
def mathematicalBounds : Bounds := .ofLengths [
  "43 1 16 3 31 1 29 1 1 1 45 1 4 1 37 1 31 1 728 3 2 1 26 2 2 3 527 3 6669 1 27 3 11 1 3 1 13 ",
  "1 14 4 21 5 11 5 65 13 4 1 3 2 4 5 18 1 4 1 2 10 1 1 2 6 6 1 3 2 2 2 1 3 1 6 3 14 1 1 68 24 ",
  "1 6 1 2 4 2 4 32 1 1 6 2 14 268 8 4 20 2 90 1 30 27 1 1 24 1 11 7 445 2 12 10 4 6 4 2 2 2 3 ",
  "5 14 1 1 1 2 6 11 8 5 2 57 1 1 1 29 4 9 3 336 64 256 512 48 21 2 6 53212 1 823 6 1 1 162 1 ",
  "16 3 29 1 1 1 29 1 1 1 131 1 6 4 54291 85 1 71 1 2 2 1 2 2 2 4 1 12 1 1 1 7 1 65 1 4 2 8 1 ",
  "7 1 28 1 4 1 5 1 1 3 7 1 340 2 292 2 50 5632 4 1 27 1 2 1 1 2 1 1 10 1 4 1 1 1 1 6 1 4 1 1 ",
  "1 1 1 1 3 1 2 1 1 2 1 1 1 1 1 1 1 1 1 1 2 1 1 2 4 1 7 1 4 1 4 1 1 1 10 1 17 5 3 1 5 1 17 52 ",
  "2"
]

/-- The character is a letter or counted among letters. -/
def isAlphabetic (c : Char) : Bool := alphabeticBounds.holds c.toNat

/-- The character is a number of any kind. -/
def isNumeric (c : Char) : Bool := inGroup 'N' c

/-- The character is a letter or a number. -/
def isAlphanumeric (c : Char) : Bool := isAlphabetic c || isNumeric c

/-- The character is a small letter. -/
def isLowercase (c : Char) : Bool := lowercaseBounds.holds c.toNat

/-- The character is a capital letter. -/
def isUppercase (c : Char) : Bool := uppercaseBounds.holds c.toNat

/-- The character is blank. -/
def isBlank (c : Char) : Bool := whiteSpaceBounds.holds c.toNat

/-- The character is a mark that combines with the one before it. -/
def isGraphemeExtend (c : Char) : Bool := graphemeExtendBounds.holds c.toNat

/-- The character can be shown as it is: it is no control, format, private or unassigned
character and no separator but the plain space. -/
def isPrintable (c : Char) : Bool := c == ' ' || !(inGroup 'C' c || inGroup 'Z' c)

end Stencil.Text
