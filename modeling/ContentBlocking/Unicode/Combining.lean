/-!
# Combining characters

The marks of Unicode 17.0, the order in which they stand behind a character, and the characters that
stand for another one with a mark.
-/

namespace ContentBlocking.Unicode.Combining

/-- The characters that belong to the one before them, in the form of the tables of general
categories. -/
def marks : List String :=
  ["300+6f 113+6 107+2c 1 1+1 1+1 1 48+a 30+14 10 65+6 2+5 2+1 1+3 23 1e+1a 5b+a 3a+8 9 18+3",
    "1+8 1+2 1+4 2b+2 3b+8 2a+17 1+20 36+2 1+11 1+6 a+1 1d+2 38 1+6 2+1 2+2 9 a+1 1a 2+2 38 1+4",
    "4+1 2+2 3 1e+1 3 b+2 38 1+7 1+2 1+2 14+1 16+5 1+2 38 1+6 2+1 2+2 7+2 a+1 1e 3b+4 3+2 1+3 9",
    "28+4 37 1+6 1+2 1+3 7+1 b+1 1d+2 38 1+6 1+2 1+3 7+1 b+1 f c+3 37+1 1+6 1+2 1+3 9 a+1 1d+2",
    "46 4+5 1 1+7 12+1 3d 2+6 c+7 62 2+8 b+6 49+1 1b 1 1 4+1 31+13 1+1 5+a 1+23 9 64+13 17+3",
    "4+2 1+2 2+6 3+3 d+b 1 a+3 2bf+2 3b2+3 1c+2 1d+1 1e+1 40+1f 9 2d+2 1 75+1 22 76+b 4+b db+4",
    "39+9 1+1c 2 30+2d 2+b 14+4 2f+10 26+8 c+2 1e+c 38+d 30+13 98+2 1+14 4 6 2+2 c6+3f 2d0+20",
    "bfe+2 8d 60+1f 22a+5 69+1 75d4+3 1+9 20+1 50+1 110 3 4 17+4 4 53+1 32+11 1a+11 d 26+7 19+c",
    "2c+3 2f+d 24 43+d c 8+1 2d+2 32 1+2 2+1 5+1 1 29+4 5+1 ec+7 1+1 4f30 2e1+f 10+f 3cd e2",
    "95+4 686+2 1+1 5+3 28+2 4 a5+1 23d+3 41+4 13d+1 4d+5 46+a 31+3 7a+2 35+e 29 2+1 a+3 2d+a 7",
    "3d+2 24+d 10+1 2c c+2 30+d 8+3 1+1 5c+b 6 2 9d+b 15+3 37+1 1+6 2+1 2+2 9 a+1 2+6 3+4 43+8",
    "1 2 1+3 1+4 1 e+1 52+11 17 51+13 eb+6 2+8 1b+1 52+10 6a+c 65+e 100+e f5+5 1+1 2+3 1 1+1",
    "8d+6 2+6 3 1c+9 28+6 1+3 8 9+a 2e+f c6+7 c7+7 1+7 52+15 1+d 7a+5 3 1+1 1+6 1 42+4 1+1 1+4",
    "15b+3 9+1 1 30+6 3+4 17 14e5 6+e 2cc8+11 9c0+4 3b+6 418 1+36 7+3 51 b+1 4cab+1 1261+2d",
    "2+16 21e+4 3+5 8+7 2+6 1e+3 94+2 7bb+36 4+31 8 e 16+4 1+e 550+6 1+10 2+6 1+1 1+4 64 a0+6",
    "177 3d+3 1fc+3 fe+1 f3 2 7+1 5 1da+6 6d+6 c17b5+ef"]

/-- The ranges of characters with a combining class other than zero. An entry is that of a table of
general categories and, after a colon, the class in hexadecimal. -/
def classes : List String :=
  ["300+14:e6 0:e8 0+3:dc 0:e8 0:d8 0+4:dc 0+1:ca 0+3:dc 0+1:ca 0+a:dc 0+4:1 0+3:dc 0+2:e6",
    "2:e6 2:f0 0:e6 0+2:dc 0+2:e6 0+1:dc 1+2:e6 0+3:dc 0:e6 0:e8 0+1:dc 0:e6 0:e9 0+1:ea 0:e9",
    "0+1:ea 0:e9 0+c:e6 113+4:e6 109:dc 0+3:e6 0:dc 0+2:e6 0:de 0:dc 0+5:e6 0+5:dc 0+1:e6 0:dc",
    "0+1:e6 0:de 0:e4 0:e6 0:a 0:b 0:c 0:d 0:e 0:f 0:10 0:11 0:12 0+1:13 0:14 0:15 0:16 1:17",
    "1:18 0:19 1:e6 0:dc 1:12 48+7:e6 0:1e 0:1f 0:20 30:1b 0:1c 0:1d 0:1e 0:1f 0:20 0:21 0:22",
    "0+1:e6 0+1:dc 0+4:e6 0:dc 0+1:e6 0:dc 10:23 65+6:e6 2+3:e6 0:dc 0:e6 2+1:e6 1:dc 0+1:e6",
    "0:dc 23:24 1e:e6 0:dc 0+1:e6 0:dc 0+1:e6 0+2:dc 0:e6 0+1:dc 0:e6 0:dc 0+2:e6 0:dc 0:e6",
    "0:dc 0:e6 0:dc 0:e6 0:dc 0+1:e6 a0+6:e6 0:dc 0:e6 9:dc 18+3:e6 1+8:e6 1+2:e6 1+4:e6",
    "2b+2:dc 3b+1:e6 0+2:dc 0+3:e6 2a+4:e6 0+4:dc 0+d:e6 1:dc 0+1:e6 0:dc 0+1:e6 0:dc 0+2:e6",
    "0+2:dc 0:1b 0:1c 0:1d 0+2:e6 0:dc 0+1:e6 0+1:dc 0+4:e6 3c:7 10:9 3:e6 0:dc 0+1:e6 67:7",
    "10:9 30:e6 3d:7 10:9 6e:7 10:9 6e:7 10:9 7f:9 6e:7 10:9 7:54 0:5b 65:7 10:9 6d+1:9 10:9",
    "7c:9 6d+1:67 0:9 d+3:6b 6c+1:76 0:9 d+3:7a 4c+1:dc 1b:dc 1:dc 1:d8 37:81 0:82 1:84 5+3:82",
    "2:82 1+1:e6 0:9 1+1:e6 3e:dc 70:7 1+1:9 52:dc 2cf+2:e6 3b4+1:9 1e:9 9d:9 a:e6 cb:e4 8f:de",
    "0:e6 0:dc db:e6 0:dc 47:9 14+7:e6 2:dc 30+4:e6 0+5:dc 0+1:e6 0:dc 1+1:dc 0+1:e6 0+1:dc",
    "0+4:e6 0:dc 0+11:e6 0:dc 2+5:e6 0:dc 0+3:e6 0:ea 48:7 f:9 26:e6 0:dc 0+6:e6 36+1:9 3a:7",
    "b+1:9 43:7 98+2:e6 1:1 0+4:dc 0+1:e6 0+3:dc 0:e6 1+6:1 4:dc 6:e6 3+1:e6 c6+1:e6 0:dc",
    "0+6:e6 0:dc 0+1:e6 0:ea 0:d6 0:dc 0:ca 0+24:e6 0:e8 0+1:e4 0:dc 0:da 0:e6 0:e9 0:dc 0:e6",
    "0:dc 2d0+1:e6 0+1:1 0+3:e6 0+2:1 0+1:e6 4:e6 3+1:1 0:e6 0:dc 0:e6 0+1:1 0+3:dc 0:e6",
    "bfe+2:e6 8d:9 60+1f:e6 22a:da 0:e4 0:e8 0:de 0+1:e0 69+1:8 75d4:e6 4+9:e6 20+1:e6 50+1:e6",
    "114:9 25:9 97:9 1b+11:e6 39+2:dc 25:9 5f:7 c:9 ef:e6 1+1:e6 0:dc 2+1:e6 5+1:e6 1:e6 34:9",
    "f6:9 4f30:1a 301+6:e6 0+6:dc 0+1:e6 3cd:dc e2:dc 95+4:e6 692:dc 1:e6 28:e6 0:1 0:dc 4:9",
    "a5:e6 0:dc 23d+3:e6 41+4:e6 13d+1:e6 4d+1:dc 1+2:dc 46+1:dc 0+2:e6 0:dc 0:e6 0+3:dc 31:e6",
    "0:dc 0:e6 0:dc c0:9 29:9 e:9 39:9 0:7 45+2:e6 30+1:9 3e:7 4c:9 9:7 6a:9 0:7 b2:7 0:9",
    "50+1:7 10:9 18+6:e6 3+4:e6 59+2:9 71:9 3:7 17:e6 63:9 0:7 fb:9 0:7 7e:9 76:9 0:7 73:9",
    "10d:9 0:7 102+1:9 4:7 9c:9 53:9 12:9 51:9 1a5:9 102:7 1+1:9 51:9 1a9+1:9 41ec:9 9c0+4:1",
    "3b+6:e6 4b9+1:6 4cac:1 14c6+1:d8 0+2:1 3:e2 0+4:d8 8+7:dc 2+4:e6 0+1:dc 1e+3:e6 94+2:e6",
    "dbb+6:e6 1+10:e6 2+6:e6 1+1:e6 1+4:e6 64:e6 a0+6:e6 177:e6 3d+3:e6 1fc+1:e8 0:dc 0:e6",
    "fe:e6 0:dc f3:e6 2:e6 7+1:e6 5:e6 1da+6:dc 6d+5:e6 0:7"]

/-- The characters that stand for two others, in ascending order: the distance from the one before
and, after a colon, the two characters. -/
def pairs : List String :=
  ["c0:41,300 0:41,301 0:41,302 0:41,303 0:41,308 0:41,30a 1:43,327 0:45,300 0:45,301 0:45,302",
    "0:45,308 0:49,300 0:49,301 0:49,302 0:49,308 1:4e,303 0:4f,300 0:4f,301 0:4f,302 0:4f,303",
    "0:4f,308 2:55,300 0:55,301 0:55,302 0:55,308 0:59,301 2:61,300 0:61,301 0:61,302 0:61,303",
    "0:61,308 0:61,30a 1:63,327 0:65,300 0:65,301 0:65,302 0:65,308 0:69,300 0:69,301 0:69,302",
    "0:69,308 1:6e,303 0:6f,300 0:6f,301 0:6f,302 0:6f,303 0:6f,308 2:75,300 0:75,301 0:75,302",
    "0:75,308 0:79,301 1:79,308 0:41,304 0:61,304 0:41,306 0:61,306 0:41,328 0:61,328 0:43,301",
    "0:63,301 0:43,302 0:63,302 0:43,307 0:63,307 0:43,30c 0:63,30c 0:44,30c 0:64,30c 2:45,304",
    "0:65,304 0:45,306 0:65,306 0:45,307 0:65,307 0:45,328 0:65,328 0:45,30c 0:65,30c 0:47,302",
    "0:67,302 0:47,306 0:67,306 0:47,307 0:67,307 0:47,327 0:67,327 0:48,302 0:68,302 2:49,303",
    "0:69,303 0:49,304 0:69,304 0:49,306 0:69,306 0:49,328 0:69,328 0:49,307 3:4a,302 0:6a,302",
    "0:4b,327 0:6b,327 1:4c,301 0:6c,301 0:4c,327 0:6c,327 0:4c,30c 0:6c,30c 4:4e,301 0:6e,301",
    "0:4e,327 0:6e,327 0:4e,30c 0:6e,30c 3:4f,304 0:6f,304 0:4f,306 0:6f,306 0:4f,30b 0:6f,30b",
    "2:52,301 0:72,301 0:52,327 0:72,327 0:52,30c 0:72,30c 0:53,301 0:73,301 0:53,302 0:73,302",
    "0:53,327 0:73,327 0:53,30c 0:73,30c 0:54,327 0:74,327 0:54,30c 0:74,30c 2:55,303 0:75,303",
    "0:55,304 0:75,304 0:55,306 0:75,306 0:55,30a 0:75,30a 0:55,30b 0:75,30b 0:55,328 0:75,328",
    "0:57,302 0:77,302 0:59,302 0:79,302 0:59,308 0:5a,301 0:7a,301 0:5a,307 0:7a,307 0:5a,30c",
    "0:7a,30c 21:4f,31b 0:6f,31b d:55,31b 0:75,31b 1c:41,30c 0:61,30c 0:49,30c 0:69,30c",
    "0:4f,30c 0:6f,30c 0:55,30c 0:75,30c 0:dc,304 0:fc,304 0:dc,301 0:fc,301 0:dc,30c 0:fc,30c",
    "0:dc,300 0:fc,300 1:c4,304 0:e4,304 0:226,304 0:227,304 0:c6,304 0:e6,304 2:47,30c",
    "0:67,30c 0:4b,30c 0:6b,30c 0:4f,328 0:6f,328 0:1ea,304 0:1eb,304 0:1b7,30c 0:292,30c",
    "0:6a,30c 3:47,301 0:67,301 2:4e,300 0:6e,300 0:c5,301 0:e5,301 0:c6,301 0:e6,301 0:d8,301",
    "0:f8,301 0:41,30f 0:61,30f 0:41,311 0:61,311 0:45,30f 0:65,30f 0:45,311 0:65,311 0:49,30f",
    "0:69,30f 0:49,311 0:69,311 0:4f,30f 0:6f,30f 0:4f,311 0:6f,311 0:52,30f 0:72,30f 0:52,311",
    "0:72,311 0:55,30f 0:75,30f 0:55,311 0:75,311 0:53,326 0:73,326 0:54,326 0:74,326 2:48,30c",
    "0:68,30c 6:41,307 0:61,307 0:45,327 0:65,327 0:d6,304 0:f6,304 0:d5,304 0:f5,304 0:4f,307",
    "0:6f,307 0:22e,304 0:22f,304 0:59,304 0:79,304 151:a8,301 0:391,301 1:395,301 0:397,301",
    "0:399,301 1:39f,301 1:3a5,301 0:3a9,301 0:3ca,301 19:399,308 0:3a5,308 0:3b1,301 0:3b5,301",
    "0:3b7,301 0:3b9,301 0:3cb,301 19:3b9,308 0:3c5,308 0:3bf,301 0:3c5,301 0:3c9,301 4:3d2,301",
    "0:3d2,308 2b:415,300 0:415,308 1:413,301 3:406,308 4:41a,301 0:418,300 0:423,306 a:418,306",
    "1f:438,306 16:435,300 0:435,308 1:433,301 3:456,308 4:43a,301 0:438,300 0:443,306",
    "17:474,30f 0:475,30f 49:416,306 0:436,306 d:410,306 0:430,306 0:410,308 0:430,308",
    "2:415,306 0:435,306 2:4d8,308 0:4d9,308 0:416,308 0:436,308 0:417,308 0:437,308 2:418,304",
    "0:438,304 0:418,308 0:438,308 0:41e,308 0:43e,308 2:4e8,308 0:4e9,308 0:42d,308 0:44d,308",
    "0:423,304 0:443,304 0:423,308 0:443,308 0:423,30b 0:443,30b 0:427,308 0:447,308 2:42b,308",
    "0:44b,308 128:627,653 0:627,654 0:648,654 0:627,655 0:64a,654 99:6d5,654 1:6c1,654",
    "10:6d2,654 255:928,93c 7:930,93c 2:933,93c 96:9c7,9be 0:9c7,9d7 17b:b47,b56 2:b47,b3e",
    "0:b47,b57 47:b92,bd7 35:bc6,bbe 0:bc7,bbe 0:bc6,bd7 7b:c46,c56 77:cbf,cd5 6:cc6,cd5",
    "0:cc6,cd6 1:cc6,cc2 0:cca,cd5 7e:d46,d3e 0:d47,d3e 0:d46,d57 8d:dd9,dca 1:dd9,dcf",
    "0:ddc,dca 0:dd9,ddf 247:1025,102e adf:1b05,1b35 1:1b07,1b35 1:1b09,1b35 1:1b0b,1b35",
    "1:1b0d,1b35 3:1b11,1b35 28:1b3a,1b35 1:1b3c,1b35 2:1b3e,1b35 0:1b3f,1b35 1:1b42,1b35",
    "2bc:41,325 0:61,325 0:42,307 0:62,307 0:42,323 0:62,323 0:42,331 0:62,331 0:c7,301",
    "0:e7,301 0:44,307 0:64,307 0:44,323 0:64,323 0:44,331 0:64,331 0:44,327 0:64,327 0:44,32d",
    "0:64,32d 0:112,300 0:113,300 0:112,301 0:113,301 0:45,32d 0:65,32d 0:45,330 0:65,330",
    "0:228,306 0:229,306 0:46,307 0:66,307 0:47,304 0:67,304 0:48,307 0:68,307 0:48,323",
    "0:68,323 0:48,308 0:68,308 0:48,327 0:68,327 0:48,32e 0:68,32e 0:49,330 0:69,330 0:cf,301",
    "0:ef,301 0:4b,301 0:6b,301 0:4b,323 0:6b,323 0:4b,331 0:6b,331 0:4c,323 0:6c,323",
    "0:1e36,304 0:1e37,304 0:4c,331 0:6c,331 0:4c,32d 0:6c,32d 0:4d,301 0:6d,301 0:4d,307",
    "0:6d,307 0:4d,323 0:6d,323 0:4e,307 0:6e,307 0:4e,323 0:6e,323 0:4e,331 0:6e,331 0:4e,32d",
    "0:6e,32d 0:d5,301 0:f5,301 0:d5,308 0:f5,308 0:14c,300 0:14d,300 0:14c,301 0:14d,301",
    "0:50,301 0:70,301 0:50,307 0:70,307 0:52,307 0:72,307 0:52,323 0:72,323 0:1e5a,304",
    "0:1e5b,304 0:52,331 0:72,331 0:53,307 0:73,307 0:53,323 0:73,323 0:15a,307 0:15b,307",
    "0:160,307 0:161,307 0:1e62,307 0:1e63,307 0:54,307 0:74,307 0:54,323 0:74,323 0:54,331",
    "0:74,331 0:54,32d 0:74,32d 0:55,324 0:75,324 0:55,330 0:75,330 0:55,32d 0:75,32d 0:168,301",
    "0:169,301 0:16a,308 0:16b,308 0:56,303 0:76,303 0:56,323 0:76,323 0:57,300 0:77,300",
    "0:57,301 0:77,301 0:57,308 0:77,308 0:57,307 0:77,307 0:57,323 0:77,323 0:58,307 0:78,307",
    "0:58,308 0:78,308 0:59,307 0:79,307 0:5a,302 0:7a,302 0:5a,323 0:7a,323 0:5a,331 0:7a,331",
    "0:68,331 0:74,308 0:77,30a 0:79,30a 1:17f,307 4:41,323 0:61,323 0:41,309 0:61,309 0:c2,301",
    "0:e2,301 0:c2,300 0:e2,300 0:c2,309 0:e2,309 0:c2,303 0:e2,303 0:1ea0,302 0:1ea1,302",
    "0:102,301 0:103,301 0:102,300 0:103,300 0:102,309 0:103,309 0:102,303 0:103,303 0:1ea0,306",
    "0:1ea1,306 0:45,323 0:65,323 0:45,309 0:65,309 0:45,303 0:65,303 0:ca,301 0:ea,301",
    "0:ca,300 0:ea,300 0:ca,309 0:ea,309 0:ca,303 0:ea,303 0:1eb8,302 0:1eb9,302 0:49,309",
    "0:69,309 0:49,323 0:69,323 0:4f,323 0:6f,323 0:4f,309 0:6f,309 0:d4,301 0:f4,301 0:d4,300",
    "0:f4,300 0:d4,309 0:f4,309 0:d4,303 0:f4,303 0:1ecc,302 0:1ecd,302 0:1a0,301 0:1a1,301",
    "0:1a0,300 0:1a1,300 0:1a0,309 0:1a1,309 0:1a0,303 0:1a1,303 0:1a0,323 0:1a1,323 0:55,323",
    "0:75,323 0:55,309 0:75,309 0:1af,301 0:1b0,301 0:1af,300 0:1b0,300 0:1af,309 0:1b0,309",
    "0:1af,303 0:1b0,303 0:1af,323 0:1b0,323 0:59,300 0:79,300 0:59,323 0:79,323 0:59,309",
    "0:79,309 0:59,303 0:79,303 6:3b1,313 0:3b1,314 0:1f00,300 0:1f01,300 0:1f00,301 0:1f01,301",
    "0:1f00,342 0:1f01,342 0:391,313 0:391,314 0:1f08,300 0:1f09,300 0:1f08,301 0:1f09,301",
    "0:1f08,342 0:1f09,342 0:3b5,313 0:3b5,314 0:1f10,300 0:1f11,300 0:1f10,301 0:1f11,301",
    "2:395,313 0:395,314 0:1f18,300 0:1f19,300 0:1f18,301 0:1f19,301 2:3b7,313 0:3b7,314",
    "0:1f20,300 0:1f21,300 0:1f20,301 0:1f21,301 0:1f20,342 0:1f21,342 0:397,313 0:397,314",
    "0:1f28,300 0:1f29,300 0:1f28,301 0:1f29,301 0:1f28,342 0:1f29,342 0:3b9,313 0:3b9,314",
    "0:1f30,300 0:1f31,300 0:1f30,301 0:1f31,301 0:1f30,342 0:1f31,342 0:399,313 0:399,314",
    "0:1f38,300 0:1f39,300 0:1f38,301 0:1f39,301 0:1f38,342 0:1f39,342 0:3bf,313 0:3bf,314",
    "0:1f40,300 0:1f41,300 0:1f40,301 0:1f41,301 2:39f,313 0:39f,314 0:1f48,300 0:1f49,300",
    "0:1f48,301 0:1f49,301 2:3c5,313 0:3c5,314 0:1f50,300 0:1f51,300 0:1f50,301 0:1f51,301",
    "0:1f50,342 0:1f51,342 1:3a5,314 1:1f59,300 1:1f59,301 1:1f59,342 0:3c9,313 0:3c9,314",
    "0:1f60,300 0:1f61,300 0:1f60,301 0:1f61,301 0:1f60,342 0:1f61,342 0:3a9,313 0:3a9,314",
    "0:1f68,300 0:1f69,300 0:1f68,301 0:1f69,301 0:1f68,342 0:1f69,342 0:3b1,300 1:3b5,300",
    "1:3b7,300 1:3b9,300 1:3bf,300 1:3c5,300 1:3c9,300 3:1f00,345 0:1f01,345 0:1f02,345",
    "0:1f03,345 0:1f04,345 0:1f05,345 0:1f06,345 0:1f07,345 0:1f08,345 0:1f09,345 0:1f0a,345",
    "0:1f0b,345 0:1f0c,345 0:1f0d,345 0:1f0e,345 0:1f0f,345 0:1f20,345 0:1f21,345 0:1f22,345",
    "0:1f23,345 0:1f24,345 0:1f25,345 0:1f26,345 0:1f27,345 0:1f28,345 0:1f29,345 0:1f2a,345",
    "0:1f2b,345 0:1f2c,345 0:1f2d,345 0:1f2e,345 0:1f2f,345 0:1f60,345 0:1f61,345 0:1f62,345",
    "0:1f63,345 0:1f64,345 0:1f65,345 0:1f66,345 0:1f67,345 0:1f68,345 0:1f69,345 0:1f6a,345",
    "0:1f6b,345 0:1f6c,345 0:1f6d,345 0:1f6e,345 0:1f6f,345 0:3b1,306 0:3b1,304 0:1f70,345",
    "0:3b1,345 0:3ac,345 1:3b1,342 0:1fb6,345 0:391,306 0:391,304 0:391,300 1:391,345 4:a8,342",
    "0:1f74,345 0:3b7,345 0:3ae,345 1:3b7,342 0:1fc6,345 0:395,300 1:397,300 1:397,345",
    "0:1fbf,300 0:1fbf,301 0:1fbf,342 0:3b9,306 0:3b9,304 0:3ca,300 3:3b9,342 0:3ca,342",
    "0:399,306 0:399,304 0:399,300 2:1ffe,300 0:1ffe,301 0:1ffe,342 0:3c5,306 0:3c5,304",
    "0:3cb,300 1:3c1,313 0:3c1,314 0:3c5,342 0:3cb,342 0:3a5,306 0:3a5,304 0:3a5,300 1:3a1,314",
    "0:a8,300 4:1f7c,345 0:3c9,345 0:3ce,345 1:3c9,342 0:1ff6,345 0:39f,300 1:3a9,300 1:3a9,345",
    "19d:2190,338 0:2192,338 12:2194,338 1e:21d0,338 0:21d4,338 0:21d2,338 34:2203,338",
    "4:2208,338 2:220b,338 17:2223,338 1:2225,338 1a:223c,338 2:2243,338 2:2245,338 1:2248,338",
    "16:3d,338 1:2261,338 a:224d,338 0:3c,338 0:3e,338 0:2264,338 0:2265,338 2:2272,338",
    "0:2273,338 2:2276,338 0:2277,338 6:227a,338 0:227b,338 2:2282,338 0:2283,338 2:2286,338",
    "0:2287,338 22:22a2,338 0:22a8,338 0:22a9,338 0:22ab,338 30:227c,338 0:227d,338 0:2291,338",
    "0:2292,338 6:22b2,338 0:22b3,338 0:22b4,338 0:22b5,338 d5e:304b,3099 1:304d,3099",
    "1:304f,3099 1:3051,3099 1:3053,3099 1:3055,3099 1:3057,3099 1:3059,3099 1:305b,3099",
    "1:305d,3099 1:305f,3099 1:3061,3099 2:3064,3099 1:3066,3099 1:3068,3099 6:306f,3099",
    "0:306f,309a 1:3072,3099 0:3072,309a 1:3075,3099 0:3075,309a 1:3078,3099 0:3078,309a",
    "1:307b,3099 0:307b,309a 16:3046,3099 9:309d,3099 d:30ab,3099 1:30ad,3099 1:30af,3099",
    "1:30b1,3099 1:30b3,3099 1:30b5,3099 1:30b7,3099 1:30b9,3099 1:30bb,3099 1:30bd,3099",
    "1:30bf,3099 1:30c1,3099 2:30c4,3099 1:30c6,3099 1:30c8,3099 6:30cf,3099 0:30cf,309a",
    "1:30d2,3099 0:30d2,309a 1:30d5,3099 0:30d5,309a 1:30d8,3099 0:30d8,309a 1:30db,3099",
    "0:30db,309a 16:30a6,3099 2:30ef,3099 0:30f0,3099 0:30f1,3099 0:30f2,3099 3:30fd,3099",
    "d4ca:105d2,307 1a:105da,307 ab5:11099,110ba 1:1109b,110ba e:110a5,110ba 82:11131,11127",
    "0:11132,11127 21b:11347,1133e 0:11347,11357 36:11382,113c9 1:11384,113bb 8:1138b,113c2",
    "2:11390,113c9 33:113c2,113c2 1:113c2,113b8 0:113c2,113c9 f2:114b9,114ba 0:114b9,114b0",
    "1:114b9,114bd fb:115b8,115af 0:115b9,115af 37c:11935,11930 47e8:1611e,1611e 0:1611e,16129",
    "0:1611e,1611f 0:16129,1611f 0:1611e,16120 0:16121,1611f 0:16122,1611f 0:16121,16120",
    "c3f:16d67,16d67 0:16d63,16d67 0:16d69,16d67"]

end ContentBlocking.Unicode.Combining
