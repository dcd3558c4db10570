/-!
# Scripts

The ranges of each script of Unicode 16.0, in the form of the tables of general categories.
-/

namespace ContentBlocking.Unicode.Script

/-- The characters of the script Adlam. -/
def adlam : List String :=
  ["1e900+4b 4+9 4+1"]

/-- The characters of the script Ahom. -/
def ahom : List String :=
  ["11700+1a 2+e 4+16"]

/-- The characters of the script Anatolian Hieroglyphs. -/
def anatolianHieroglyphs : List String :=
  ["14400+246"]

/-- The characters of the script Arabic. -/
def arabic : List String :=
  ["600+4 1+5 1+d 1+2 1+1f 1+9 b+19 1+6b 1+21 50+2f f0+1e 1+1 5+4a 1+1c f250+72 10+16a 2+4f",
    "2+35 7 20+f 70+4 1+86 f63+1e 43+2 37+3 df00+3 1+1a 1+1 1 2 1+9 1+3 1 1 6 4 1 1 1+2 1+1 1 2",
    "1 1 1 1 1+1 1 2+3 1+6 1+3 1+3 1 1+9 1+10 5+2 1+4 1+10 34+1"]

/-- The characters of the script Armenian. -/
def armenian : List String :=
  ["531+25 2+31 2+2 f583+4"]

/-- The characters of the script Avestan. -/
def avestan : List String :=
  ["10b00+35 3+6"]

/-- The characters of the script Balinese. -/
def balinese : List String :=
  ["1b00+4c 1+31"]

/-- The characters of the script Bamum. -/
def bamum : List String :=
  ["a6a0+57 c108+238"]

/-- The characters of the script Bassa Vah. -/
def bassaVah : List String :=
  ["16ad0+1d 2+5"]

/-- The characters of the script Batak. -/
def batak : List String :=
  ["1bc0+33 8+3"]

/-- The characters of the script Bengali. -/
def bengali : List String :=
  ["980+3 1+7 2+1 2+15 1+6 1 3+3 2+8 2+1 2+3 8 4+1 1+4 2+18"]

/-- The characters of the script Bhaiksuki. -/
def bhaiksuki : List String :=
  ["11c00+8 1+2c 1+d a+1c"]

/-- The characters of the script Bopomofo. -/
def bopomofo : List String :=
  ["2ea+1 2e19+2a 70+1f"]

/-- The characters of the script Brahmi. -/
def brahmi : List String :=
  ["11000+4d 4+23 9"]

/-- The characters of the script Braille. -/
def braille : List String :=
  ["2800+ff"]

/-- The characters of the script Buginese. -/
def buginese : List String :=
  ["1a00+1b 2+1"]

/-- The characters of the script Buhid. -/
def buhid : List String :=
  ["1740+13"]

/-- The characters of the script Canadian Aboriginal. -/
def canadianAboriginal : List String :=
  ["1400+27f 230+45 101ba+f"]

/-- The characters of the script Carian. -/
def carian : List String :=
  ["102a0+30"]

/-- The characters of the script Caucasian Albanian. -/
def caucasianAlbanian : List String :=
  ["10530+33 b"]

/-- The characters of the script Chakma. -/
def chakma : List String :=
  ["11100+34 1+11"]

/-- The characters of the script Cham. -/
def cham : List String :=
  ["aa00+36 9+d 2+9 2+3"]

/-- The characters of the script Cherokee. -/
def cherokee : List String :=
  ["13a0+55 2+5 9772+4f"]

/-- The characters of the script Chorasmian. -/
def chorasmian : List String :=
  ["10fb0+1b"]

/-- The characters of the script Common. -/
def common : List String :=
  ["0+40 1a+5 1a+2e 1+e 1+4 17 1f 1c1+26 5+4 2+13 74 9 6 1 27d 6 e 3 20 9c 204 81+1 4d9 195+3",
    "122 5ef+2 47+1 cb+1 1 4cd d 7+3 1+5 1+2 2 305+b 2+56 1+a 3+a 1+e 11+20 3f+25 1+2 2+5 1+1a",
    "1+10 29+2 4+299 16+a 15+39f 100+273 2+1f 1+68 200+5d 192+14 1 1+18 f+7 4+3 5b+1 3 5a+1",
    "93+f 20+25 9 30+3f 1f+50 2f 58+a7 19c0+3f 5900+21 66+2 a5+9 f4 a0 18b e+1 51d2+1 d0+9",
    "16+22 1+12 1+3 93 1+1f 1a+5 1a+a a 2d+1 40+6 1+6 a+4 102+2 4+2c 3+8 50+c 33+2c e4+1a",
    "b9a4+3 f5c+f9 6+1b3 9c+73 3c+f5 a+26 2+3d 3+10 8+1 7+1d 4+3c d5+13 c+13 c+56 9+18 87+54",
    "1+46 1+1 2 2+1 2+3 1+b 1 1+6 1+40 1+3 2+7 1+6 1+1b 1+3 1+4 1 3+6 1+153 2+123 2+31 1471+43",
    "4c+3c 2c2+2b 4+63 c+e 2+e 1+e 1+24 a+ad 38+19 1+1 d+2b 4+8 7+1 e+5 9a+3d7 4+10 3+c 3+76",
    "4+5e 6+b 4 f+b 4+37 8+9 6+27 8+1d 2+b 4+1 3e+153 c+d 2+c 3+9 5+37 7+e 2+a 6+8 7+92 1+65",
    "c0407 1e+5f"]

/-- The characters of the script Coptic. -/
def coptic : List String :=
  ["3e2+d 2890+73 5+6"]

/-- The characters of the script Cuneiform. -/
def cuneiform : List String :=
  ["12000+399 66+6e 1+4 b+c3"]

/-- The characters of the script Cypriot. -/
def cypriot : List String :=
  ["10800+5 2 1+2b 1+1 3 2"]

/-- The characters of the script Cypro Minoan. -/
def cyproMinoan : List String :=
  ["12f90+62"]

/-- The characters of the script Cyrillic. -/
def cyrillic : List String :=
  ["400+84 2+a8 1750+a a0 4c 1067+1f 7840+5f 578e+1 e200+3d 21"]

/-- The characters of the script Deseret. -/
def deseret : List String :=
  ["10400+4f"]

/-- The characters of the script Devanagari. -/
def devanagari : List String :=
  ["900+50 4+e 2+19 9f60+1f 7200+9"]

/-- The characters of the script Dives Akuru. -/
def divesAkuru : List String :=
  ["11900+6 2 2+7 1+1 1+1d 1+1 2+b 9+9"]

/-- The characters of the script Dogra. -/
def dogra : List String :=
  ["11800+3b"]

/-- The characters of the script Duployan. -/
def duployan : List String :=
  ["1bc00+6a 5+c 3+8 7+9 2+3"]

/-- The characters of the script Egyptian Hieroglyphs. -/
def egyptianHieroglyphs : List String :=
  ["13000+455 a+f9a"]

/-- The characters of the script Elbasan. -/
def elbasan : List String :=
  ["10500+27"]

/-- The characters of the script Elymaic. -/
def elymaic : List String :=
  ["10fe0+16"]

/-- The characters of the script Ethiopic. -/
def ethiopic : List String :=
  ["1200+48 1+3 2+6 1 1+3 2+28 1+3 2+20 1+3 2+6 1 1+3 2+e 1+38 1+3 2+42 2+1f 3+19 19e6+16 9+6",
    "1+6 1+6 1+6 1+6 1+6 1+6 1+6 7d22+5 2+5 2+5 9+6 1+6 13cb1+6 1+3 1+1 1+e"]

/-- The characters of the script Garay. -/
def garay : List String :=
  ["10d40+25 3+1c 8+1"]

/-- The characters of the script Georgian. -/
def georgian : List String :=
  ["10a0+25 1 5 2+2a 1+3 b90+2a 2+2 1040+25 1 5"]

/-- The characters of the script Glagolitic. -/
def glagolitic : List String :=
  ["2c00+5f 1b3a0+6 1+10 2+6 1+1 1+4"]

/-- The characters of the script Gothic. -/
def gothic : List String :=
  ["10330+1a"]

/-- The characters of the script Grantha. -/
def grantha : List String :=
  ["11300+3 1+7 2+1 2+15 1+6 1+1 1+4 2+8 2+1 2+2 2 6 5+6 2+6 3+4"]

/-- The characters of the script Greek. -/
def greek : List String :=
  ["370+3 1+2 2+3 1 4 1 1+2 1 1+13 1+3e e+f 1926+4 32+4 4+4 54 140+15 2+5 2+25 2+5 2+7 1 1 1",
    "1+1e 2+34 1+e 1+d 2+5 1+12 2+2 1+8 127 8a3e 55da+4e 11 d05f+45"]

/-- The characters of the script Gujarati. -/
def gujarati : List String :=
  ["a81+2 1+8 1+2 1+15 1+6 1+1 1+4 2+9 1+2 1+2 2 f+3 2+b 7+6"]

/-- The characters of the script Gunjala Gondi. -/
def gunjalaGondi : List String :=
  ["11d60+5 1+1 1+24 1+1 1+5 7+9"]

/-- The characters of the script Gurmukhi. -/
def gurmukhi : List String :=
  ["a01+2 1+5 4+1 2+15 1+6 1+1 1+1 1+1 2 1+4 4+1 2+2 3 7+3 1 7+10"]

/-- The characters of the script Gurung Khema. -/
def gurungKhema : List String :=
  ["16100+39"]

/-- The characters of the script Han. -/
def han : List String :=
  ["2e80+19 1+58 c+d5 2f 1 19+8 e+3 3c4+19bf 40+51ff 5900+16d 2+69 7508+1 c+1 900e+a6df",
    "20+1039 6+dd 2+1681 e+1d30 f+26d 9a2+21d 5e2+134a 5+105f"]

/-- The characters of the script Hangul. -/
def hangul : List String :=
  ["1100+ff 1e2e+1 101+5d 71+1e 41+1e 76e1+1c 283+2ba3 c+16 4+30 27a4+1e 3+5 2+5 2+5 2+2"]

/-- The characters of the script Hanifi Rohingya. -/
def hanifiRohingya : List String :=
  ["10d00+27 8+9"]

/-- The characters of the script Hanunoo. -/
def hanunoo : List String :=
  ["1720+14"]

/-- The characters of the script Hatran. -/
def hatran : List String :=
  ["108e0+12 1+1 5+4"]

/-- The characters of the script Hebrew. -/
def hebrew : List String :=
  ["591+36 8+1a 4+5 f528+19 1+4 1 1+1 1+1 1+9"]

/-- The characters of the script Hiragana. -/
def hiragana : List String :=
  ["3041+55 6+2 17f61+11e 12 1d+2 40ad"]

/-- The characters of the script Imperial Aramaic. -/
def imperialAramaic : List String :=
  ["10840+15 1+8"]

/-- The characters of the script Inherited. -/
def inherited : List String :=
  ["300+6f 115+1 1c4+a 1a 2e0+3 115b+1e 201+2 1+c 1+6 4 6 3+1 c6+3f 20c+1 c2+20 f39+3 6b+1",
    "cd65+f 10+d 3cf e2 105a bbc4+2d 2+16 220+2 11+7 2+6 1e+3 c2f52+ef"]

/-- The characters of the script Inscriptional Pahlavi. -/
def inscriptionalPahlavi : List String :=
  ["10b60+12 5+7"]

/-- The characters of the script Inscriptional Parthian. -/
def inscriptionalParthian : List String :=
  ["10b40+15 2+7"]

/-- The characters of the script Javanese. -/
def javanese : List String :=
  ["a980+4d 2+9 4+1"]

/-- The characters of the script Kaithi. -/
def kaithi : List String :=
  ["11080+42 a"]

/-- The characters of the script Kannada. -/
def kannada : List String :=
  ["c80+c 1+2 1+16 1+9 1+4 2+8 1+2 1+3 7+1 6+1 1+3 2+9 1+2"]

/-- The characters of the script Katakana. -/
def katakana : List String :=
  ["30a1+59 2+2 f0+f d0+2e 1+57 cc0e+9 1+2c b052+3 1+6 1+1 1 11f+2 32 e+3"]

/-- The characters of the script Kawi. -/
def kawi : List String :=
  ["11f00+10 1+28 3+1c"]

/-- The characters of the script Kayah Li. -/
def kayahLi : List String :=
  ["a900+2d 1"]

/-- The characters of the script Kharoshthi. -/
def kharoshthi : List String :=
  ["10a00+3 1+1 5+7 1+2 1+1c 2+2 4+9 7+8"]

/-- The characters of the script Khitan Small Script. -/
def khitanSmallScript : List String :=
  ["16fe4 1b1b+1d5 29"]

/-- The characters of the script Khmer. -/
def khmer : List String :=
  ["1780+5d 2+9 6+9 1e6+1f"]

/-- The characters of the script Khojki. -/
def khojki : List String :=
  ["11200+11 1+2e"]

/-- The characters of the script Khudawadi. -/
def khudawadi : List String :=
  ["112b0+3a 5+9"]

/-- The characters of the script Kirat Rai. -/
def kiratRai : List String :=
  ["16d40+39"]

/-- The characters of the script Lao. -/
def lao : List String :=
  ["e81+1 1 1+4 1+17 1 1+16 2+4 1 1+6 1+9 2+3"]

/-- The characters of the script Latin. -/
def latin : List String :=
  ["41+19 6+19 2f f 5+16 1+1e 1+1c0 27+4 1a1b+25 6+30 5+3 5+c 1+45 41+ff 171 d 10+c 8d+1 6 1b",
    "11+28 ad7+1f 7aa2+65 3+42 2+1 1 1+7 15+d 330+2a 1+8 1+3 4f96+6 41a+19 6+19 825+5 1+29 1+8",
    "d745+1e 6+5"]

/-- The characters of the script Lepcha. -/
def lepcha : List String :=
  ["1c00+37 3+e 3+2"]

/-- The characters of the script Limbu. -/
def limbu : List String :=
  ["1900+1e 1+b 4+b 4 3+b"]

/-- The characters of the script Linear A. -/
def linearA : List String :=
  ["10600+136 9+15 a+7"]

/-- The characters of the script Linear B. -/
def linearB : List String :=
  ["10000+b 1+19 1+12 1+1 1+e 2+d 22+7a"]

/-- The characters of the script Lisu. -/
def lisu : List String :=
  ["a4d0+2f 7ab0"]

/-- The characters of the script Lycian. -/
def lycian : List String :=
  ["10280+1c"]

/-- The characters of the script Lydian. -/
def lydian : List String :=
  ["10920+19 5"]

/-- The characters of the script Mahajani. -/
def mahajani : List String :=
  ["11150+26"]

/-- The characters of the script Makasar. -/
def makasar : List String :=
  ["11ee0+18"]

/-- The characters of the script Malayalam. -/
def malayalam : List String :=
  ["d00+c 1+2 1+32 1+2 1+5 4+f 2+19"]

/-- The characters of the script Mandaic. -/
def mandaic : List String :=
  ["840+1b 2"]

/-- The characters of the script Manichaean. -/
def manichaean : List String :=
  ["10ac0+26 4+b"]

/-- The characters of the script Marchen. -/
def marchen : List String :=
  ["11c70+1f 2+15 1+d"]

/-- The characters of the script Masaram Gondi. -/
def masaramGondi : List String :=
  ["11d00+6 1+1 1+2b 3 1+1 1+8 8+9"]

/-- The characters of the script Medefaidrin. -/
def medefaidrin : List String :=
  ["16e40+5a"]

/-- The characters of the script Meetei Mayek. -/
def meeteiMayek : List String :=
  ["aae0+16 c9+2d 2+9"]

/-- The characters of the script Mende Kikakui. -/
def mendeKikakui : List String :=
  ["1e800+c4 2+f"]

/-- The characters of the script Meroitic Cursive. -/
def meroiticCursive : List String :=
  ["109a0+17 4+13 2+2d"]

/-- The characters of the script Meroitic Hieroglyphs. -/
def meroiticHieroglyphs : List String :=
  ["10980+1f"]

/-- The characters of the script Miao. -/
def miao : List String :=
  ["16f00+4a 4+38 7+10"]

/-- The characters of the script Modi. -/
def modi : List String :=
  ["11600+44 b+9"]

/-- The characters of the script Mongolian. -/
def mongolian : List String :=
  ["1800+1 2 1+13 6+58 7+2a fdb5+c"]

/-- The characters of the script Mro. -/
def mro : List String :=
  ["16a40+1e 1+9 4+1"]

/-- The characters of the script Multani. -/
def multani : List String :=
  ["11280+6 1 1+3 1+e 1+a"]

/-- The characters of the script Myanmar. -/
def myanmar : List String :=
  ["1000+9f 9940+1e 61+1f 6c50+13"]

/-- The characters of the script Nabataean. -/
def nabataean : List String :=
  ["10880+1e 8+8"]

/-- The characters of the script Nag Mundari. -/
def nagMundari : List String :=
  ["1e4d0+29"]

/-- The characters of the script Nandinagari. -/
def nandinagari : List String :=
  ["119a0+7 2+2d 2+a"]

/-- The characters of the script New Tai Lue. -/
def newTaiLue : List String :=
  ["1980+2b 4+19 6+a 3+1"]

/-- The characters of the script Newa. -/
def newa : List String :=
  ["11400+5b 1+4"]

/-- The characters of the script Nko. -/
def nko : List String :=
  ["7c0+3a 2+2"]

/-- The characters of the script Nushu. -/
def nushu : List String :=
  ["16fe1 418e+18b"]

/-- The characters of the script Nyiakeng Puachue Hmong. -/
def nyiakengPuachueHmong : List String :=
  ["1e100+2c 3+d 2+9 4+1"]

/-- The characters of the script Ogham. -/
def ogham : List String :=
  ["1680+1c"]

/-- The characters of the script Ol Chiki. -/
def olChiki : List String :=
  ["1c50+2f"]

/-- The characters of the script Ol Onal. -/
def olOnal : List String :=
  ["1e5d0+2a 4"]

/-- The characters of the script Old Hungarian. -/
def oldHungarian : List String :=
  ["10c80+32 d+32 7+5"]

/-- The characters of the script Old Italic. -/
def oldItalic : List String :=
  ["10300+23 9+2"]

/-- The characters of the script Old North Arabian. -/
def oldNorthArabian : List String :=
  ["10a80+1f"]

/-- The characters of the script Old Permic. -/
def oldPermic : List String :=
  ["10350+2a"]

/-- The characters of the script Old Persian. -/
def oldPersian : List String :=
  ["103a0+23 4+d"]

/-- The characters of the script Old Sogdian. -/
def oldSogdian : List String :=
  ["10f00+27"]

/-- The characters of the script Old South Arabian. -/
def oldSouthArabian : List String :=
  ["10a60+1f"]

/-- The characters of the script Old Turkic. -/
def oldTurkic : List String :=
  ["10c00+48"]

/-- The characters of the script Old Uyghur. -/
def oldUyghur : List String :=
  ["10f70+19"]

/-- The characters of the script Oriya. -/
def oriya : List String :=
  ["b01+2 1+7 2+1 2+15 1+6 1+1 1+4 2+8 2+1 2+2 7+2 4+1 1+4 2+11"]

/-- The characters of the script Osage. -/
def osage : List String :=
  ["104b0+23 4+23"]

/-- The characters of the script Osmanya. -/
def osmanya : List String :=
  ["10480+1d 2+9"]

/-- The characters of the script Pahawh Hmong. -/
def pahawhHmong : List String :=
  ["16b00+45 a+9 1+6 1+14 5+12"]

/-- The characters of the script Palmyrene. -/
def palmyrene : List String :=
  ["10860+1f"]

/-- The characters of the script Pau Cin Hau. -/
def pauCinHau : List String :=
  ["11ac0+38"]

/-- The characters of the script Phags Pa. -/
def phagsPa : List String :=
  ["a840+37"]

/-- The characters of the script Phoenician. -/
def phoenician : List String :=
  ["10900+1b 3"]

/-- The characters of the script Psalter Pahlavi. -/
def psalterPahlavi : List String :=
  ["10b80+11 7+3 c+6"]

/-- The characters of the script Rejang. -/
def rejang : List String :=
  ["a930+23 b"]

/-- The characters of the script Runic. -/
def runic : List String :=
  ["16a0+4a 3+a"]

/-- The characters of the script Samaritan. -/
def samaritan : List String :=
  ["800+2d 2+e"]

/-- The characters of the script Saurashtra. -/
def saurashtra : List String :=
  ["a880+45 8+b"]

/-- The characters of the script Sharada. -/
def sharada : List String :=
  ["11180+5f"]

/-- The characters of the script Shavian. -/
def shavian : List String :=
  ["10450+2f"]

/-- The characters of the script Siddham. -/
def siddham : List String :=
  ["11580+35 2+25"]

/-- The characters of the script SignWriting. -/
def signwriting : List String :=
  ["1d800+28b f+4 1+e"]

/-- The characters of the script Sinhala. -/
def sinhala : List String :=
  ["d81+2 1+11 3+17 1+8 1 2+6 3 4+5 1 1+7 6+9 2+2 103ec+13"]

/-- The characters of the script Sogdian. -/
def sogdian : List String :=
  ["10f30+29"]

/-- The characters of the script Sora Sompeng. -/
def soraSompeng : List String :=
  ["110d0+18 7+9"]

/-- The characters of the script Soyombo. -/
def soyombo : List String :=
  ["11a50+52"]

/-- The characters of the script Sundanese. -/
def sundanese : List String :=
  ["1b80+3f 100+7"]

/-- The characters of the script Sunuwar. -/
def sunuwar : List String :=
  ["11bc0+21 e+9"]

/-- The characters of the script Syloti Nagri. -/
def sylotiNagri : List String :=
  ["a800+2c"]

/-- The characters of the script Syriac. -/
def syriac : List String :=
  ["700+d 1+3b 2+2 110+a"]

/-- The characters of the script Tagalog. -/
def tagalog : List String :=
  ["1700+15 9"]

/-- The characters of the script Tagbanwa. -/
def tagbanwa : List String :=
  ["1760+c 1+2 1+1"]

/-- The characters of the script Tai Le. -/
def taiLe : List String :=
  ["1950+1d 2+4"]

/-- The characters of the script Tai Tham. -/
def taiTham : List String :=
  ["1a20+3e 1+1c 2+a 6+9 6+d"]

/-- The characters of the script Tai Viet. -/
def taiViet : List String :=
  ["aa80+42 18+4"]

/-- The characters of the script Takri. -/
def takri : List String :=
  ["11680+39 6+9"]

/-- The characters of the script Tamil. -/
def tamil : List String :=
  ["b82+1 1+5 3+2 1+3 3+1 1 1+1 3+1 3+2 3+b 4+4 3+2 1+3 2 6 e+14 113c5+31 d"]

/-- The characters of the script Tangsa. -/
def tangsa : List String :=
  ["16a70+4e 1+9"]

/-- The characters of the script Tangut. -/
def tangut : List String :=
  ["16fe0 1f+17f7 8+2ff 200+8"]

/-- The characters of the script Telugu. -/
def telugu : List String :=
  ["c00+c 1+2 1+16 1+f 2+8 1+2 1+3 7+1 1+2 2 2+3 2+9 7+8"]

/-- The characters of the script Thaana. -/
def thaana : List String :=
  ["780+31"]

/-- The characters of the script Thai. -/
def thai : List String :=
  ["e01+39 5+1b"]

/-- The characters of the script Tibetan. -/
def tibetan : List String :=
  ["f00+47 1+23 4+26 1+23 1+e 1+6 4+1"]

/-- The characters of the script Tifinagh. -/
def tifinagh : List String :=
  ["2d30+37 7+1 e"]

/-- The characters of the script Tirhuta. -/
def tirhuta : List String :=
  ["11480+47 8+9"]

/-- The characters of the script Todhri. -/
def todhri : List String :=
  ["105c0+33"]

/-- The characters of the script Toto. -/
def toto : List String :=
  ["1e290+1e"]

/-- The characters of the script Tulu Tigalari. -/
def tuluTigalari : List String :=
  ["11380+9 1 2 1+25 1+9 1 2 1+3 1+9 1+1 8+1"]

/-- The characters of the script Ugaritic. -/
def ugaritic : List String :=
  ["10380+1d 1"]

/-- The characters of the script Vai. -/
def vai : List String :=
  ["a500+12b"]

/-- The characters of the script Vithkuqi. -/
def vithkuqi : List String :=
  ["10570+a 1+e 1+6 1+1 1+a 1+e 1+6 1+1"]

/-- The characters of the script Wancho. -/
def wancho : List String :=
  ["1e2c0+39 5"]

/-- The characters of the script Warang Citi. -/
def warangCiti : List String :=
  ["118a0+52 c"]

/-- The characters of the script Yezidi. -/
def yezidi : List String :=
  ["10e80+29 1+2 2+1"]

/-- The characters of the script Yi. -/
def yi : List String :=
  ["a000+48c 3+36"]

/-- The characters of the script Zanabazar Square. -/
def zanabazarSquare : List String :=
  ["11a00+47"]

/-- The scripts: their names and their tables. -/
def tables : List (List String × List String) :=
  [(["adlam", "adlm"], adlam),
    (["ahom"], ahom),
    (["anatolianhieroglyphs", "hluw"], anatolianHieroglyphs),
    (["arab", "arabic"], arabic),
    (["armenian", "armn"], armenian),
    (["avestan", "avst"], avestan),
    (["bali", "balinese"], balinese),
    (["bamu", "bamum"], bamum),
    (["bass", "bassavah"], bassaVah),
    (["batak", "batk"], batak),
    (["beng", "bengali"], bengali),
    (["bhaiksuki", "bhks"], bhaiksuki),
    (["bopo", "bopomofo"], bopomofo),
    (["brah", "brahmi"], brahmi),
    (["brai", "braille"], braille),
    (["bugi", "buginese"], buginese),
    (["buhd", "buhid"], buhid),
    (["canadianaboriginal", "cans"], canadianAboriginal),
    (["cari", "carian"], carian),
    (["aghb", "caucasianalbanian"], caucasianAlbanian),
    (["cakm", "chakma"], chakma),
    (["cham"], cham),
    (["cher", "cherokee"], cherokee),
    (["chorasmian", "chrs"], chorasmian),
    (["common", "zyyy"], common),
    (["copt", "coptic", "qaac"], coptic),
    (["cuneiform", "xsux"], cuneiform),
    (["cprt", "cypriot"], cypriot),
    (["cpmn", "cyprominoan"], cyproMinoan),
    (["cyrillic", "cyrl"], cyrillic),
    (["deseret", "dsrt"], deseret),
    (["deva", "devanagari"], devanagari),
    (["diak", "divesakuru"], divesAkuru),
    (["dogr", "dogra"], dogra),
    (["dupl", "duployan"], duployan),
    (["egyp", "egyptianhieroglyphs"], egyptianHieroglyphs),
    (["elba", "elbasan"], elbasan),
    (["elym", "elymaic"], elymaic),
    (["ethi", "ethiopic"], ethiopic),
    (["gara", "garay"], garay),
    (["geor", "georgian"], georgian),
    (["glag", "glagolitic"], glagolitic),
    (["goth", "gothic"], gothic),
    (["gran", "grantha"], grantha),
    (["greek", "grek"], greek),
    (["gujarati", "gujr"], gujarati),
    (["gong", "gunjalagondi"], gunjalaGondi),
    (["gurmukhi", "guru"], gurmukhi),
    (["gukh", "gurungkhema"], gurungKhema),
    (["han", "hani"], han),
    (["hang", "hangul"], hangul),
    (["hanifirohingya", "rohg"], hanifiRohingya),
    (["hano", "hanunoo"], hanunoo),
    (["hatr", "hatran"], hatran),
    (["hebr", "hebrew"], hebrew),
    (["hira", "hiragana"], hiragana),
    (["armi", "imperialaramaic"], imperialAramaic),
    (["inherited", "qaai", "zinh"], inherited),
    (["inscriptionalpahlavi", "phli"], inscriptionalPahlavi),
    (["inscriptionalparthian", "prti"], inscriptionalParthian),
    (["java", "javanese"], javanese),
    (["kaithi", "kthi"], kaithi),
    (["kannada", "knda"], kannada),
    (["kana", "katakana"], katakana),
    (["kawi"], kawi),
    (["kali", "kayahli"], kayahLi),
    (["khar", "kharoshthi"], kharoshthi),
    (["khitansmallscript", "kits"], khitanSmallScript),
    (["khmer", "khmr"], khmer),
    (["khoj", "khojki"], khojki),
    (["khudawadi", "sind"], khudawadi),
    (["kiratrai", "krai"], kiratRai),
    (["lao", "laoo"], lao),
    (["latin", "latn"], latin),
    (["lepc", "lepcha"], lepcha),
    (["limb", "limbu"], limbu),
    (["lina", "lineara"], linearA),
    (["linb", "linearb"], linearB),
    (["lisu"], lisu),
    (["lyci", "lycian"], lycian),
    (["lydi", "lydian"], lydian),
    (["mahajani", "mahj"], mahajani),
    (["maka", "makasar"], makasar),
    (["malayalam", "mlym"], malayalam),
    (["mand", "mandaic"], mandaic),
    (["mani", "manichaean"], manichaean),
    (["marc", "marchen"], marchen),
    (["gonm", "masaramgondi"], masaramGondi),
    (["medefaidrin", "medf"], medefaidrin),
    (["meeteimayek", "mtei"], meeteiMayek),
    (["mend", "mendekikakui"], mendeKikakui),
    (["merc", "meroiticcursive"], meroiticCursive),
    (["mero", "meroitichieroglyphs"], meroiticHieroglyphs),
    (["miao", "plrd"], miao),
    (["modi"], modi),
    (["mong", "mongolian"], mongolian),
    (["mro", "mroo"], mro),
    (["mult", "multani"], multani),
    (["myanmar", "mymr"], myanmar),
    (["nabataean", "nbat"], nabataean),
    (["nagm", "nagmundari"], nagMundari),
    (["nand", "nandinagari"], nandinagari),
    (["newtailue", "talu"], newTaiLue),
    (["newa"], newa),
    (["nko", "nkoo"], nko),
    (["nshu", "nushu"], nushu),
    (["hmnp", "nyiakengpuachuehmong"], nyiakengPuachueHmong),
    (["ogam", "ogham"], ogham),
    (["olchiki", "olck"], olChiki),
    (["olonal", "onao"], olOnal),
    (["hung", "oldhungarian"], oldHungarian),
    (["ital", "olditalic"], oldItalic),
    (["narb", "oldnortharabian"], oldNorthArabian),
    (["oldpermic", "perm"], oldPermic),
    (["oldpersian", "xpeo"], oldPersian),
    (["oldsogdian", "sogo"], oldSogdian),
    (["oldsoutharabian", "sarb"], oldSouthArabian),
    (["oldturkic", "orkh"], oldTurkic),
    (["olduyghur", "ougr"], oldUyghur),
    (["oriya", "orya"], oriya),
    (["osage", "osge"], osage),
    (["osma", "osmanya"], osmanya),
    (["hmng", "pahawhhmong"], pahawhHmong),
    (["palm", "palmyrene"], palmyrene),
    (["pauc", "paucinhau"], pauCinHau),
    (["phag", "phagspa"], phagsPa),
    (["phnx", "phoenician"], phoenician),
    (["phlp", "psalterpahlavi"], psalterPahlavi),
    (["rejang", "rjng"], rejang),
    (["runic", "runr"], runic),
    (["samaritan", "samr"], samaritan),
    (["saur", "saurashtra"], saurashtra),
    (["sharada", "shrd"], sharada),
    (["shavian", "shaw"], shavian),
    (["sidd", "siddham"], siddham),
    (["sgnw", "signwriting"], signwriting),
    (["sinh", "sinhala"], sinhala),
    (["sogd", "sogdian"], sogdian),
    (["sora", "sorasompeng"], soraSompeng),
    (["soyo", "soyombo"], soyombo),
    (["sund", "sundanese"], sundanese),
    (["sunu", "sunuwar"], sunuwar),
    (["sylo", "sylotinagri"], sylotiNagri),
    (["syrc", "syriac"], syriac),
    (["tagalog", "tglg"], tagalog),
    (["tagb", "tagbanwa"], tagbanwa),
    (["taile", "tale"], taiLe),
    (["lana", "taitham"], taiTham),
    (["taiviet", "tavt"], taiViet),
    (["takr", "takri"], takri),
    (["tamil", "taml"], tamil),
    (["tangsa", "tnsa"], tangsa),
    (["tang", "tangut"], tangut),
    (["telu", "telugu"], telugu),
    (["thaa", "thaana"], thaana),
    (["thai"], thai),
    (["tibetan", "tibt"], tibetan),
    (["tfng", "tifinagh"], tifinagh),
    (["tirh", "tirhuta"], tirhuta),
    (["todhri", "todr"], todhri),
    (["toto"], toto),
    (["tulutigalari", "tutg"], tuluTigalari),
    (["ugar", "ugaritic"], ugaritic),
    (["vai", "vaii"], vai),
    (["vith", "vithkuqi"], vithkuqi),
    (["wancho", "wcho"], wancho),
    (["wara", "warangciti"], warangCiti),
    (["yezi", "yezidi"], yezidi),
    (["yi", "yiii"], yi),
    (["zanabazarsquare", "zanb"], zanabazarSquare)]

end ContentBlocking.Unicode.Script
