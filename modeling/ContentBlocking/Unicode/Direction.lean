/-!
# Directions of characters

The ranges of the characters of each class of the bidirectional algorithm in Unicode 17.0, in the
form of the tables of general categories.  Characters in none of the tables run from left to right.
-/

namespace ContentBlocking.Unicode.Direction

/-- The characters of the class `R`. -/
def rightToLeft : List String :=
  ["590 2d 1 2 2 1+37 1c0+2a 9+1 4+2 1+17 4 9 3 5+2a 3+3 17af db0d 1+9 1+25 cb0+11e 1+e0 3 2+4",
    "4+27 3+3 1+a4 2+51 7+1bf 4a+1e 6+f0 1f+2b 2+12 40+2f 40+11 4+79 d800+cf 7+6c 7+324 50+3f",
    "50+af 100+ff"]

/-- The characters of the class `AL`. -/
def arabicLetter : List String :=
  ["608 2 1 d+2f 22+2 1+64 f+1 7+1 a+16 1+1d 1b+5a b+e a0+2f 2+4 9+29 f286+72 10+16a 12+3f",
    "2+35 28+c 73+8e e01+23 4+7 a+5 180+f 9+20 36+15 b+1e dd00+4f 40+4f b0+ef 2+d"]

/-- The characters of the class `AN`. -/
def arabicNumber : List String :=
  ["600+5 5a+9 1+1 70 1b2+1 50 1044d+9 6+9 116+1e"]

/-- The characters of the class `EN`. -/
def europeanNumber : List String :=
  ["30+9 78+1 5 636+9 1976 3+5 6+9 3fe+13 da74+9 3c7+1a c9f4+9 ad4+31 1900+a ae5+9"]

/-- The characters of the class `ES`. -/
def europeanSeparator : List String :=
  ["2b 1 204c+1 e+1 186 d916 338+1 a7 1"]

/-- The characters of the class `ET`. -/
def europeanTerminator : List String :=
  ["23+2 7c+3 a+1 4dd 79+1 5f 387+1 7 f5 107 245 99b 854+4 6b+2f 5e e4 8624+1 5625 9+1 98+2",
    "da+1 3+1 1ff6+3 c31e"]

/-- The characters of the class `CS`. -/
def commonSeparator : List String :=
  ["2c 1+1 a 65 56b 1a22 14 de0b 1 2 b6 1+1 a"]

/-- The characters of the class `NSM`. -/
def nonspacingMark : List String :=
  ["300+6f 113+6 107+2c 1 1+1 1+1 1 48+a 30+14 10 65+6 2+5 2+1 1+3 23 1e+1a 5b+a 3a+8 9 18+3",
    "1+8 1+2 1+4 2b+2 3b+8 2a+17 1+1f 37 1 4+7 4 3+6 a+1 1d 3a 4+3 8 14+1 1a 2+1 39 4+1 4+1 2+2",
    "3 1e+1 3 b+1 39 4+4 1+1 4 14+1 16+5 1 3a 2 1+3 8 7+1 b+1 1e 3d c 32 3 37 1+2 5+2 1+3 7+1",
    "b+1 1d 3a f+1 14+1 1c+1 39+1 4+3 8 14+1 1d 48 7+2 1 5a 2+6 c+7 62 2+8 b+6 49+1 1b 1 1 37+d",
    "1+4 1+1 5+a 1+23 9 66+3 1+5 1+1 2+1 19+1 4+2 10+3 d 2+1 6 f 2bf+2 3b2+2 1d+1 1e+1 1e+1",
    "40+1 1+6 8 2+a 9 2d+2 1 75+1 22 76+2 4+1 9 6+2 db+1 2 3a 1+6 1 1 2+7 6+9 2 30+2d 2+b 14+3",
    "30 1+4 1 5 28+8 c+1 20+3 2+1 1+2 38 1+1 3 1+2 3a+7 2+1 98+2 1+c 1+6 4 6 3+1 c6+3f 2d0+20",
    "bfe+2 8d 60+1f 22a+3 6b+1 75d4+3 1+9 20+1 50+1 110 3 4 19+1 5 97+1 1a+11 d 26+7 19+a 2e+2",
    "30 2+3 2+1 27 43+5 2+1 2+1 c 8 2f 33 1+2 2+1 5+1 1 2a+1 8 ee 2 4 4f30 2e1+f 10+f 3cd e2",
    "95+4 686+2 1+1 5+3 28+2 4 a5+1 23d+3 41+4 13d+1 4d+5 46+a 31+3 7b 36+e 29 2+1 a+2 31+3 2+1",
    "7 3d+2 24+4 1+7 3e c+1 34+8 a+3 2 5f+2 2 1+1 6 2 9d 3+7 15+1 39+1 3 25+6 3+4 46+5 d 1 1",
    "e+1 55+7 2+2 1 17 54+5 1 4+1 1+1 ee+3 6+1 1+1 1b+1 55+7 2 1+1 6a 1 2+5 1 65 1 2+3 1+4",
    "103+8 1+1 100+1 1 4 90+3 2+1 4 20+5 2+1 28+5 2+3 8 9+5 2+2 2e+c 1+1 c6 1+2 1 c9+6 1+5",
    "54+15 2+6 1+1 1+1 7a+5 3 1+1 1+6 1 48+1 3 1 15b+1 b+1 34+4 5 1 17 14e5 6+e 2cc8+b 3+2",
    "9c0+4 3b+6 418 3f+3 51 4cb8+1 1261+2d 2+16 220+2 11+7 2+6 1e+3 94+2 7bb+36 4+31 8 e 16+4",
    "1+e 550+6 1+10 2+6 1+1 1+4 64 a0+6 177 3d+3 1fc+3 fe+1 f3 2 7+1 5 1da+6 6d+6 c17b5+ef"]

/-- The characters of the class `BN`. -/
def boundaryNeutral : List String :=
  ["0+8 5+d 63+5 1+19 d 1760 7fc+2 52+5 4+5 dd60+1f 10f f0+8 5+1 bca0+3 14cf+7 2e83+1 fffe+1",
    "fffe+1 fffe+1 fffe+1 fffe+1 fffe+1 fffe+1 fffe+1 fffe+1 fffe+1 fffe+1 fffe+101 f0+e0f",
    "effe+1 fffe+1 fffe+1"]

/-- The characters of the class `ON`. -/
def otherNeutral : List String :=
  ["21+1 3+4 10+5 1a+5 1a+3 22 4+3 1+1 1+1 4 1+2 2+4 17 1f 1c1+1 7+d 2+d 5+8 1+10 74+1 8 5+1 1",
    "6e 193 2+1 77+1 6+1 ce a 10c+3 3f9+5 1 7d+6 2bb+3 452+9 66 29a+1 153+9 6+a 135 3+1 98+21",
    "5bd 1+2 b+2 d+2 d+2 d+1 11+17 d+e 1+19 1d+2 d+2 71+1 1+3 1+1 a 1+2 5+5 1 1 1 10+1 4+4 5+3",
    "2+f 29+2 4+81 2+121 45+19 1+93 16+a 15+27 62+1c1 1+152 100+273 2+89 e5+5 e+6 100+5d 22+19",
    "1+58 c+d5 1a+f 1+3 3+18 f 5+1 5+2 5b+1 3 5a c4+25 9 2d+1 31+f 1c+2 32+e c+3 a7+3 63+1 1f",
    "19c0+3f 5690+36 146+2 63 a+1 80+21 66 9f+3 48+3 2f2+1 5057+f 16b+11 40+1 36+7 2d+2 10+9",
    "16+1f 1 2 1+8 1+1 2+2 1 2 95+1 3+4 10+5 1a+5 1a+a 7c+2 3+6 a+4 103 3e+4c 3+c 3 77e 219+6",
    "22e 161+8 179+13 5fa+c 968+7 4+10 4ff0 5c1d+d5 24+2 3+1b3 6+16 f+10 2f8+1 15+41 3 ba+56",
    "36a 19 1f 19 1f 19 1f 19 1f 19 172c+1 10e+2b 4+63 c+e 2+e 1+e 1+24 15+4 1f 3a+5 3d b2+5",
    "9a+3d8 3+10 3+c 3+d9 6+b 4 f+b 4+37 8+9 6+27 8+1d 2+b 4+1 e+8 27+157 8+d 2+c 3+a 3+38 1",
    "4+f 2+b 4+9 7+92 1+5b a"]

/-- The separators of paragraphs and segments, blanks and explicit marks of direction. -/
def formatting : List String :=
  ["9+4 e+4 64 15fa 97f+a 1d+6 30 6+3 f96"]

end ContentBlocking.Unicode.Direction
