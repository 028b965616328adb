import JsonSchema.Unicode.Runs
/-!
# Scripts

Every code point belongs to one script, named by a code of four letters. Code points that are used
with several scripts have *script extensions*, which replace the script where they are given.
-/

namespace JsonSchema.Unicode

/-- The scripts of Unicode 16. -/
def scriptTable : List String := [
  "65Zyyy26Latn6Zyyy26Latn47Zyyy1Latn15Zyyy1Latn5Zyyy23Latn1Zyyy31Latn1Zyyy449Latn39Zyyy5Latn5Z",
  "yyy2Bopo20Zyyy112Zinh4Grek1Zyyy3Grek2Zzzz4Grek1Zyyy1Grek4Zzzz1Grek1Zyyy1Grek1Zyyy3Grek1Zzzz1",
  "Grek1Zzzz20Grek1Zzzz63Grek14Copt16Grek133Cyrl2Zinh169Cyrl1Zzzz38Armn2Zzzz50Armn2Zzzz3Armn1Zz",
  "zz55Hebr8Zzzz27Hebr4Zzzz6Hebr11Zzzz5Arab1Zyyy6Arab1Zyyy14Arab1Zyyy3Arab1Zyyy32Arab1Zyyy10Ara",
  "b11Zinh26Arab1Zinh108Arab1Zyyy34Arab14Syrc1Zzzz60Syrc2Zzzz3Syrc48Arab50Thaa14Zzzz59Nkoo2Zzzz",
  "3Nkoo46Samr2Zzzz15Samr1Zzzz28Mand2Zzzz1Mand1Zzzz11Syrc5Zzzz31Arab1Zzzz2Arab5Zzzz75Arab1Zyyy2",
  "9Arab81Deva4Zinh15Deva2Zyyy26Deva4Beng1Zzzz8Beng2Zzzz2Beng2Zzzz22Beng1Zzzz7Beng1Zzzz1Beng3Zz",
  "zz4Beng2Zzzz9Beng2Zzzz2Beng2Zzzz4Beng8Zzzz1Beng4Zzzz2Beng1Zzzz5Beng2Zzzz25Beng2Zzzz3Guru1Zzz",
  "z6Guru4Zzzz2Guru2Zzzz22Guru1Zzzz7Guru1Zzzz2Guru1Zzzz2Guru1Zzzz2Guru2Zzzz1Guru1Zzzz5Guru4Zzzz",
  "2Guru2Zzzz3Guru3Zzzz1Guru7Zzzz4Guru1Zzzz1Guru7Zzzz17Guru10Zzzz3Gujr1Zzzz9Gujr1Zzzz3Gujr1Zzzz",
  "22Gujr1Zzzz7Gujr1Zzzz2Gujr1Zzzz5Gujr2Zzzz10Gujr1Zzzz3Gujr1Zzzz3Gujr2Zzzz1Gujr15Zzzz4Gujr2Zzz",
  "z12Gujr7Zzzz7Gujr1Zzzz3Orya1Zzzz8Orya2Zzzz2Orya2Zzzz22Orya1Zzzz7Orya1Zzzz2Orya1Zzzz5Orya2Zzz",
  "z9Orya2Zzzz2Orya2Zzzz3Orya7Zzzz3Orya4Zzzz2Orya1Zzzz5Orya2Zzzz18Orya10Zzzz2Taml1Zzzz6Taml3Zzz",
  "z3Taml1Zzzz4Taml3Zzzz2Taml1Zzzz1Taml1Zzzz2Taml3Zzzz2Taml3Zzzz3Taml3Zzzz12Taml4Zzzz5Taml3Zzzz",
  "3Taml1Zzzz4Taml2Zzzz1Taml6Zzzz1Taml14Zzzz21Taml5Zzzz13Telu1Zzzz3Telu1Zzzz23Telu1Zzzz16Telu2Z",
  "zzz9Telu1Zzzz3Telu1Zzzz4Telu7Zzzz2Telu1Zzzz3Telu2Zzzz1Telu2Zzzz4Telu2Zzzz10Telu7Zzzz9Telu13K",
  "nda1Zzzz3Knda1Zzzz23Knda1Zzzz10Knda1Zzzz5Knda2Zzzz9Knda1Zzzz3Knda1Zzzz4Knda7Zzzz2Knda6Zzzz2K",
  "nda1Zzzz4Knda2Zzzz10Knda1Zzzz3Knda12Zzzz13Mlym1Zzzz3Mlym1Zzzz51Mlym1Zzzz3Mlym1Zzzz6Mlym4Zzzz",
  "16Mlym2Zzzz26Mlym1Zzzz3Sinh1Zzzz18Sinh3Zzzz24Sinh1Zzzz9Sinh1Zzzz1Sinh2Zzzz7Sinh3Zzzz1Sinh4Zz",
  "zz6Sinh1Zzzz1Sinh1Zzzz8Sinh6Zzzz10Sinh2Zzzz3Sinh12Zzzz58Thai4Zzzz1Zyyy28Thai37Zzzz2Laoo1Zzzz",
  "1Laoo1Zzzz5Laoo1Zzzz24Laoo1Zzzz1Laoo1Zzzz23Laoo2Zzzz5Laoo1Zzzz1Laoo1Zzzz7Laoo1Zzzz10Laoo2Zzz",
  "z4Laoo32Zzzz72Tibt1Zzzz36Tibt4Zzzz39Tibt1Zzzz36Tibt1Zzzz15Tibt1Zzzz7Tibt4Zyyy2Tibt37Zzzz160M",
  "ymr38Geor1Zzzz1Geor5Zzzz1Geor2Zzzz43Geor1Zyyy4Geor256Hang73Ethi1Zzzz4Ethi2Zzzz7Ethi1Zzzz1Eth",
  "i1Zzzz4Ethi2Zzzz41Ethi1Zzzz4Ethi2Zzzz33Ethi1Zzzz4Ethi2Zzzz7Ethi1Zzzz1Ethi1Zzzz4Ethi2Zzzz15Et",
  "hi1Zzzz57Ethi1Zzzz4Ethi2Zzzz67Ethi2Zzzz32Ethi3Zzzz26Ethi6Zzzz86Cher2Zzzz6Cher2Zzzz640Cans29O",
  "gam3Zzzz75Runr3Zyyy11Runr7Zzzz22Tglg9Zzzz1Tglg21Hano2Zyyy9Zzzz20Buhd12Zzzz13Tagb1Zzzz3Tagb1Z",
  "zzz2Tagb12Zzzz94Khmr2Zzzz10Khmr6Zzzz10Khmr6Zzzz2Mong2Zyyy1Mong1Zyyy20Mong6Zzzz89Mong7Zzzz43M",
  "ong5Zzzz70Cans10Zzzz31Limb1Zzzz12Limb4Zzzz12Limb4Zzzz1Limb3Zzzz12Limb30Tale2Zzzz5Tale11Zzzz4",
  "4Talu4Zzzz26Talu6Zzzz11Talu3Zzzz2Talu32Khmr28Bugi2Zzzz2Bugi63Lana1Zzzz29Lana2Zzzz11Lana6Zzzz",
  "10Lana6Zzzz14Lana2Zzzz31Zinh49Zzzz77Bali1Zzzz50Bali64Sund52Batk8Zzzz4Batk56Lepc3Zzzz15Lepc3Z",
  "zzz3Lepc48Olck11Cyrl5Zzzz43Geor2Zzzz3Geor8Sund8Zzzz3Zinh1Zyyy13Zinh1Zyyy7Zinh4Zyyy1Zinh6Zyyy",
  "1Zinh3Zyyy2Zinh1Zyyy5Zzzz38Latn5Grek1Cyrl49Latn5Grek4Latn5Grek13Latn1Cyrl70Latn1Grek64Zinh25",
  "6Latn22Grek2Zzzz6Grek2Zzzz38Grek2Zzzz6Grek2Zzzz8Grek1Zzzz1Grek1Zzzz1Grek1Zzzz1Grek1Zzzz31Gre",
  "k2Zzzz53Grek1Zzzz15Grek1Zzzz14Grek2Zzzz6Grek1Zzzz19Grek2Zzzz3Grek1Zzzz9Grek1Zzzz12Zyyy2Zinh8",
  "7Zyyy1Zzzz11Zyyy1Latn2Zzzz11Zyyy1Latn15Zyyy1Zzzz13Latn3Zzzz33Zyyy15Zzzz33Zinh15Zzzz38Zyyy1Gr",
  "ek3Zyyy2Latn6Zyyy1Latn27Zyyy1Latn17Zyyy41Latn3Zyyy4Zzzz666Zyyy22Zzzz11Zyyy21Zzzz928Zyyy256Br",
  "ai628Zyyy2Zzzz32Zyyy1Zzzz105Zyyy96Glag32Latn116Copt5Zzzz7Copt38Geor1Zzzz1Geor5Zzzz1Geor2Zzzz",
  "56Tfng7Zzzz2Tfng14Zzzz1Tfng23Ethi9Zzzz7Ethi1Zzzz7Ethi1Zzzz7Ethi1Zzzz7Ethi1Zzzz7Ethi1Zzzz7Eth",
  "i1Zzzz7Ethi1Zzzz7Ethi1Zzzz32Cyrl94Zyyy34Zzzz26Hani1Zzzz89Hani12Zzzz214Hani26Zzzz21Zyyy1Hani1",
  "Zyyy1Hani25Zyyy9Hani4Zinh2Hang8Zyyy4Hani4Zyyy1Zzzz86Hira2Zzzz2Zinh2Zyyy3Hira1Zyyy90Kana2Zyyy",
  "3Kana5Zzzz43Bopo1Zzzz94Hang1Zzzz16Zyyy32Bopo38Zyyy9Zzzz1Zyyy16Kana31Hang1Zzzz64Zyyy31Hang81Z",
  "yyy47Kana1Zyyy88Kana168Zyyy6592Hani64Zyyy20992Hani1165Yiii3Zzzz55Yiii9Zzzz48Lisu300Vaii20Zzz",
  "z96Cyrl88Bamu8Zzzz34Zyyy102Latn3Zyyy67Latn2Zzzz2Latn1Zzzz1Latn1Zzzz8Latn21Zzzz14Latn45Sylo3Z",
  "zzz10Zyyy6Zzzz56Phag8Zzzz70Saur8Zzzz12Saur6Zzzz32Deva46Kali1Zyyy1Kali36Rjng11Zzzz1Rjng29Hang",
  "3Zzzz78Java1Zzzz1Zyyy10Java4Zzzz2Java31Mymr1Zzzz55Cham9Zzzz14Cham2Zzzz10Cham2Zzzz4Cham32Mymr",
  "67Tavt24Zzzz5Tavt23Mtei10Zzzz6Ethi2Zzzz6Ethi2Zzzz6Ethi9Zzzz7Ethi1Zzzz7Ethi1Zzzz43Latn1Zyyy9L",
  "atn1Grek4Latn2Zyyy4Zzzz80Cher46Mtei2Zzzz10Mtei6Zzzz11172Hang12Zzzz23Hang4Zzzz49Hang8452Zzzz3",
  "66Hani2Zzzz106Hani38Zzzz7Latn12Zzzz5Armn5Zzzz26Hebr1Zzzz5Hebr1Zzzz1Hebr1Zzzz2Hebr1Zzzz2Hebr1",
  "Zzzz10Hebr115Arab16Zzzz363Arab2Zyyy80Arab2Zzzz54Arab7Zzzz1Arab32Zzzz16Arab16Zinh10Zyyy6Zzzz1",
  "4Zinh2Cyrl35Zyyy1Zzzz19Zyyy1Zzzz4Zyyy4Zzzz5Arab1Zzzz135Arab2Zzzz1Zyyy1Zzzz32Zyyy26Latn6Zyyy2",
  "6Latn11Zyyy10Kana1Zyyy45Kana2Zyyy31Hang3Zzzz6Hang2Zzzz6Hang2Zzzz6Hang2Zzzz3Hang3Zzzz7Zyyy1Zz",
  "zz7Zyyy10Zzzz5Zyyy2Zzzz12Linb1Zzzz26Linb1Zzzz19Linb1Zzzz2Linb1Zzzz15Linb2Zzzz14Linb34Zzzz123",
  "Linb5Zzzz3Zyyy4Zzzz45Zyyy3Zzzz9Zyyy79Grek1Zzzz13Zyyy3Zzzz1Grek47Zzzz45Zyyy1Zinh130Zzzz29Lyci",
  "3Zzzz49Cari15Zzzz1Zinh27Zyyy4Zzzz36Ital9Zzzz3Ital27Goth5Zzzz43Perm5Zzzz30Ugar1Zzzz1Ugar36Xpe",
  "o4Zzzz14Xpeo42Zzzz80Dsrt48Shaw30Osma2Zzzz10Osma6Zzzz36Osge4Zzzz36Osge4Zzzz40Elba8Zzzz52Aghb1",
  "1Zzzz1Aghb11Vith1Zzzz15Vith1Zzzz7Vith1Zzzz2Vith1Zzzz11Vith1Zzzz15Vith1Zzzz7Vith1Zzzz2Vith3Zz",
  "zz52Todr12Zzzz311Lina9Zzzz22Lina10Zzzz8Lina24Zzzz6Latn1Zzzz42Latn1Zzzz9Latn69Zzzz6Cprt2Zzzz1",
  "Cprt1Zzzz44Cprt1Zzzz2Cprt3Zzzz1Cprt2Zzzz1Cprt22Armi1Zzzz9Armi32Palm31Nbat8Zzzz9Nbat48Zzzz19H",
  "atr1Zzzz2Hatr5Zzzz5Hatr28Phnx3Zzzz1Phnx26Lydi5Zzzz1Lydi64Zzzz32Mero24Merc4Zzzz20Merc2Zzzz46M",
  "erc4Khar1Zzzz2Khar5Zzzz8Khar1Zzzz3Khar1Zzzz29Khar2Zzzz3Khar4Zzzz10Khar7Zzzz9Khar7Zzzz32Sarb3",
  "2Narb32Zzzz39Mani4Zzzz12Mani9Zzzz54Avst3Zzzz7Avst22Prti2Zzzz8Prti19Phli5Zzzz8Phli18Phlp7Zzzz",
  "4Phlp12Zzzz7Phlp80Zzzz73Orkh55Zzzz51Hung13Zzzz51Hung7Zzzz6Hung40Rohg8Zzzz10Rohg6Zzzz38Gara3Z",
  "zzz29Gara8Zzzz2Gara208Zzzz31Arab1Zzzz42Yezi1Zzzz3Yezi2Zzzz2Yezi16Zzzz3Arab55Zzzz4Arab40Sogo8",
  "Zzzz42Sogd22Zzzz26Ougr38Zzzz28Chrs20Zzzz23Elym9Zzzz78Brah4Zzzz36Brah9Zzzz1Brah67Kthi10Zzzz1K",
  "thi2Zzzz25Sora7Zzzz10Sora6Zzzz53Cakm1Zzzz18Cakm8Zzzz39Mahj9Zzzz96Shrd1Zzzz20Sinh11Zzzz18Khoj",
  "1Zzzz47Khoj62Zzzz7Mult1Zzzz1Mult1Zzzz4Mult1Zzzz15Mult1Zzzz11Mult6Zzzz59Sind5Zzzz10Sind6Zzzz4",
  "Gran1Zzzz8Gran2Zzzz2Gran2Zzzz22Gran1Zzzz7Gran1Zzzz2Gran1Zzzz5Gran1Zzzz1Zinh9Gran2Zzzz2Gran2Z",
  "zzz3Gran2Zzzz1Gran6Zzzz1Gran5Zzzz7Gran2Zzzz7Gran3Zzzz5Gran11Zzzz10Tutg1Zzzz1Tutg2Zzzz1Tutg1Z",
  "zzz38Tutg1Zzzz10Tutg1Zzzz1Tutg2Zzzz1Tutg1Zzzz4Tutg1Zzzz10Tutg1Zzzz2Tutg8Zzzz2Tutg29Zzzz92New",
  "a1Zzzz5Newa30Zzzz72Tirh8Zzzz10Tirh166Zzzz54Sidd2Zzzz38Sidd34Zzzz69Modi11Zzzz10Modi6Zzzz13Mon",
  "g19Zzzz58Takr6Zzzz10Takr6Zzzz20Mymr28Zzzz27Ahom2Zzzz15Ahom4Zzzz23Ahom185Zzzz60Dogr100Zzzz83W",
  "ara12Zzzz1Wara7Diak2Zzzz1Diak2Zzzz8Diak1Zzzz2Diak1Zzzz30Diak1Zzzz2Diak2Zzzz12Diak9Zzzz10Diak",
  "70Zzzz8Nand2Zzzz46Nand2Zzzz11Nand27Zzzz72Zanb8Zzzz83Soyo13Zzzz16Cans57Pauc7Zzzz10Deva182Zzzz",
  "34Sunu14Zzzz10Sunu6Zzzz9Bhks1Zzzz45Bhks1Zzzz14Bhks10Zzzz29Bhks3Zzzz32Marc2Zzzz22Marc1Zzzz14M",
  "arc73Zzzz7Gonm1Zzzz2Gonm1Zzzz44Gonm3Zzzz1Gonm1Zzzz2Gonm1Zzzz9Gonm8Zzzz10Gonm6Zzzz6Gong1Zzzz2",
  "Gong1Zzzz37Gong1Zzzz2Gong1Zzzz6Gong7Zzzz10Gong310Zzzz25Maka7Zzzz17Kawi1Zzzz41Kawi3Zzzz29Kawi",
  "85Zzzz1Lisu15Zzzz50Taml13Zzzz1Taml922Xsux102Zzzz111Xsux1Zzzz5Xsux11Zzzz196Xsux2636Zzzz99Cpmn",
  "13Zzzz1110Egyp10Zzzz3995Egyp5Zzzz583Hluw6841Zzzz58Gukh1734Zzzz569Bamu7Zzzz31Mroo1Zzzz10Mroo4",
  "Zzzz2Mroo79Tnsa1Zzzz10Tnsa6Zzzz30Bass2Zzzz6Bass10Zzzz70Hmng10Zzzz10Hmng1Zzzz7Hmng1Zzzz21Hmng",
  "5Zzzz19Hmng432Zzzz58Krai198Zzzz91Medf101Zzzz75Plrd4Zzzz57Plrd7Zzzz17Plrd64Zzzz1Tang1Nshu2Han",
  "i1Kits11Zzzz2Hani14Zzzz6136Tang8Zzzz768Tang470Kits41Zzzz1Kits9Tang8935Zzzz4Kana1Zzzz7Kana1Zz",
  "zz2Kana1Zzzz1Kana287Hira3Kana15Zzzz1Hira29Zzzz3Hira2Zzzz1Kana14Zzzz4Kana8Zzzz396Nshu2308Zzzz",
  "107Dupl5Zzzz13Dupl3Zzzz9Dupl7Zzzz10Dupl2Zzzz4Dupl4Zyyy3932Zzzz250Zyyy6Zzzz436Zyyy76Zzzz46Zin",
  "h2Zzzz23Zinh9Zzzz116Zyyy60Zzzz246Zyyy10Zzzz39Zyyy2Zzzz62Zyyy3Zinh17Zyyy8Zinh2Zyyy7Zinh30Zyyy",
  "4Zinh61Zyyy21Zzzz70Grek122Zzzz20Zyyy12Zzzz20Zyyy12Zzzz87Zyyy9Zzzz25Zyyy135Zzzz85Zyyy1Zzzz71Z",
  "yyy1Zzzz2Zyyy2Zzzz1Zyyy2Zzzz2Zyyy2Zzzz4Zyyy1Zzzz12Zyyy1Zzzz1Zyyy1Zzzz7Zyyy1Zzzz65Zyyy1Zzzz4Z",
  "yyy2Zzzz8Zyyy1Zzzz7Zyyy1Zzzz28Zyyy1Zzzz4Zyyy1Zzzz5Zyyy1Zzzz1Zyyy3Zzzz7Zyyy1Zzzz340Zyyy2Zzzz2",
  "92Zyyy2Zzzz50Zyyy652Sgnw15Zzzz5Sgnw1Zzzz15Sgnw1104Zzzz31Latn6Zzzz6Latn213Zzzz7Glag1Zzzz17Gla",
  "g2Zzzz7Glag1Zzzz2Glag1Zzzz5Glag5Zzzz62Cyrl33Zzzz1Cyrl112Zzzz45Hmnp3Zzzz14Hmnp2Zzzz10Hmnp4Zzz",
  "z2Hmnp320Zzzz31Toto17Zzzz58Wcho5Zzzz1Wcho464Zzzz42Nagm214Zzzz43Onao4Zzzz1Onao480Zzzz7Ethi1Zz",
  "zz4Ethi1Zzzz2Ethi1Zzzz15Ethi1Zzzz197Mend2Zzzz16Mend41Zzzz76Adlm4Zzzz10Adlm4Zzzz2Adlm785Zzzz6",
  "8Zyyy76Zzzz61Zyyy194Zzzz4Arab1Zzzz27Arab1Zzzz2Arab1Zzzz1Arab2Zzzz1Arab1Zzzz10Arab1Zzzz4Arab1",
  "Zzzz1Arab1Zzzz1Arab6Zzzz1Arab4Zzzz1Arab1Zzzz1Arab1Zzzz1Arab1Zzzz3Arab1Zzzz2Arab1Zzzz1Arab2Zz",
  "zz1Arab1Zzzz1Arab1Zzzz1Arab1Zzzz1Arab1Zzzz1Arab1Zzzz2Arab1Zzzz1Arab2Zzzz4Arab1Zzzz7Arab1Zzzz",
  "4Arab1Zzzz4Arab1Zzzz1Arab1Zzzz10Arab1Zzzz17Arab5Zzzz3Arab1Zzzz5Arab1Zzzz17Arab52Zzzz2Arab270",
  "Zzzz44Zyyy4Zzzz100Zyyy12Zzzz15Zyyy2Zzzz15Zyyy1Zzzz15Zyyy1Zzzz37Zyyy10Zzzz174Zyyy56Zzzz26Zyyy",
  "1Hira2Zyyy13Zzzz44Zyyy4Zzzz9Zyyy7Zzzz2Zyyy14Zzzz6Zyyy154Zzzz984Zyyy4Zzzz17Zyyy3Zzzz13Zyyy3Zz",
  "zz119Zyyy4Zzzz95Zyyy6Zzzz12Zyyy4Zzzz1Zyyy15Zzzz12Zyyy4Zzzz56Zyyy8Zzzz10Zyyy6Zzzz40Zyyy8Zzzz3",
  "0Zyyy2Zzzz12Zyyy4Zzzz2Zyyy62Zzzz340Zyyy12Zzzz14Zyyy2Zzzz13Zyyy3Zzzz10Zyyy5Zzzz56Zyyy7Zzzz15Z",
  "yyy2Zzzz11Zyyy6Zzzz9Zyyy7Zzzz147Zyyy1Zzzz102Zyyy1030Zzzz42720Hani32Zzzz4154Hani6Zzzz222Hani2",
  "Zzzz5762Hani14Zzzz7473Hani15Zzzz622Hani2466Zzzz542Hani1506Zzzz4939Hani5Zzzz4192Hani711761Zzz",
  "z1Zyyy30Zzzz96Zyyy128Zzzz240Zinh196112Zzzz"]

def scriptRuns : List (Nat × String) := runs scriptTable

/-- The code of the script. -/
def script (n : Nat) : String := nameIn n scriptRuns

/-- First code point, number of code points and script codes, where script extensions differ from
the script. -/
def extensionTable : List String := [
  "834+1-Grek 837+1-Grek 867+13-Latn 1155+1-Cyrl-Perm 1156+1-Cyrl-Glag 1157+2-Cyrl-Latn ",
  "1159+1-Cyrl-Glag 1548+1-Arab-Nkoo-Rohg-Syrc-Thaa-Yezi 1563+1-Arab-Nkoo-Rohg-Syrc-Thaa-Yezi ",
  "1564+1-Arab-Syrc-Thaa 1567+1-Adlm-Arab-Nkoo-Rohg-Syrc-Thaa-Yezi ",
  "1600+1-Adlm-Arab-Mand-Mani-Ougr-Phlp-Rohg-Sogd-Syrc 1611+11-Arab-Syrc 1632+10-Arab-Thaa-Yezi ",
  "1648+1-Arab-Syrc 1748+1-Arab-Rohg ",
  "2385+1-Beng-Deva-Gran-Gujr-Guru-Knda-Latn-Mlym-Orya-Shrd-Taml-Telu-Tirh ",
  "2386+1-Beng-Deva-Gran-Gujr-Guru-Knda-Latn-Mlym-Orya-Taml-Telu-Tirh ",
  "2404+1-Beng-Deva-Dogr-Gong-Gonm-Gran-Gujr-Guru-Knda-Mahj-Mlym-Nand-Orya-Sind-Sinh-Sylo-Takr-Taml-Telu-Tirh ",
  "2405+1-Beng-Deva-Dogr-Gong-Gonm-Gran-Gujr-Guru-Knda-Limb-Mahj-Mlym-Nand-Orya-Sind-Sinh-Sylo-Takr-Taml-Telu-Tirh ",
  "2406+10-Deva-Dogr-Kthi-Mahj 2534+10-Beng-Cakm-Sylo 2662+10-Guru-Mult 2790+10-Gujr-Khoj ",
  "3046+14-Gran-Taml 3302+10-Knda-Nand 4160+10-Cakm-Mymr-Tale 4347+1-Geor-Latn ",
  "5941+2-Buhd-Hano-Tagb-Tglg 6146+2-Mong-Phag 6149+1-Mong-Phag 7376+1-Beng-Deva-Gran-Knda ",
  "7377+1-Deva 7378+1-Beng-Deva-Gran-Knda 7379+1-Deva-Gran 7380+1-Deva 7381+2-Beng-Deva ",
  "7383+1-Deva-Shrd 7384+1-Beng-Deva 7385+1-Deva-Shrd 7386+1-Deva-Knda-Mlym-Orya-Taml-Telu ",
  "7387+1-Deva 7388+2-Deva-Shrd 7390+2-Deva 7392+1-Deva-Shrd 7393+1-Beng-Deva 7394+7-Deva ",
  "7401+1-Deva-Nand 7402+1-Beng-Deva 7403+2-Deva 7405+1-Beng-Deva 7406+4-Deva ",
  "7410+1-Beng-Deva-Gran-Knda-Nand-Orya-Telu-Tirh 7411+1-Deva-Gran 7412+1-Deva-Gran-Knda ",
  "7413+2-Beng-Deva 7415+1-Beng 7416+2-Deva-Gran 7418+1-Nand 7616+2-Grek 7672+1-Cyrl-Syrc ",
  "7674+1-Syrc 8239+1-Latn-Mong 8432+1-Deva-Gran-Latn 11843+1-Cyrl-Glag ",
  "12289+2-Bopo-Hang-Hani-Hira-Kana-Yiii 12291+1-Bopo-Hang-Hani-Hira-Kana 12294+1-Hani ",
  "12296+10-Bopo-Hang-Hani-Hira-Kana-Yiii 12307+1-Bopo-Hang-Hani-Hira-Kana ",
  "12308+8-Bopo-Hang-Hani-Hira-Kana-Yiii 12316+4-Bopo-Hang-Hani-Hira-Kana 12330+4-Bopo-Hani ",
  "12336+1-Bopo-Hang-Hani-Hira-Kana 12337+5-Hira-Kana 12343+1-Bopo-Hang-Hani-Hira-Kana ",
  "12348+2-Hani-Hira-Kana 12350+2-Hani 12441+2-Hira-Kana 12443+2-Hira-Kana 12448+1-Hira-Kana ",
  "12539+1-Bopo-Hang-Hani-Hira-Kana-Yiii 12540+1-Hira-Kana 12688+16-Hani 12736+36-Hani ",
  "12832+40-Hani 12928+49-Hani 12992+12-Hani 13055+1-Hani 13144+25-Hani 13179+5-Hani ",
  "13280+31-Hani 42607+1-Cyrl-Glag 42752+8-Hani-Latn ",
  "43056+3-Deva-Dogr-Gujr-Guru-Khoj-Knda-Kthi-Mahj-Mlym-Modi-Nand-Sind-Takr-Tirh ",
  "43059+3-Deva-Dogr-Gujr-Guru-Khoj-Knda-Kthi-Mahj-Modi-Nand-Sind-Takr-Tirh ",
  "43062+4-Deva-Dogr-Gujr-Guru-Khoj-Kthi-Mahj-Modi-Sind-Takr-Tirh 43249+1-Beng-Deva ",
  "43251+1-Deva-Taml 43310+1-Kali-Latn-Mymr 43471+1-Bugi-Java 64830+2-Arab-Nkoo ",
  "65010+1-Arab-Thaa 65021+1-Arab-Thaa 65093+2-Bopo-Hang-Hani-Hira-Kana ",
  "65377+5-Bopo-Hang-Hani-Hira-Kana-Yiii 65392+1-Hira-Kana 65438+2-Hira-Kana ",
  "65792+2-Cpmn-Cprt-Linb 65794+1-Cprt-Linb 65799+45-Cprt-Lina-Linb 65847+9-Cprt-Linb ",
  "66272+1-Arab-Copt 66273+27-Arab-Copt 68338+1-Mani-Ougr 70401+1-Gran-Taml 70403+1-Gran-Taml ",
  "70459+1-Gran-Taml 70460+1-Gran-Taml 73680+2-Gran-Taml 73683+1-Gran-Taml 113824+4-Dupl ",
  "119648+18-Hani 127568+2-Hani"]

/-- One entry of the table of extensions. -/
def extensionEntry (entry : String) : Range × List String :=
  match entry.splitOn "-" with
  | [] => ((0, 0), [])
  | span :: scripts =>
    match numbers span with
    | [first, count] => ((first, first + count - 1), scripts)
    | _ => ((0, 0), scripts)

def extensions : List (Range × List String) :=
  ((String.join extensionTable).splitOn " ").filterMap fun e =>
    if e.isEmpty then none else some (extensionEntry e)

/-- The scripts with which a code point is used. -/
def scriptExtensions (n : Nat) : List String :=
  match extensions.find? fun e => e.1.1 ≤ n && n ≤ e.1.2 with
  | some e => e.2
  | none => [script n]

/-- The code of each script with its names, in lower case and without separators. -/
def scriptNameTable : List String := [
  "Adlm/adlm/adlam Aghb/aghb/caucasianalbanian Ahom/ahom Arab/arab/arabic ",
  "Armi/armi/imperialaramaic Armn/armn/armenian Avst/avst/avestan Bali/bali/balinese ",
  "Bamu/bamu/bamum Bass/bass/bassavah Batk/batk/batak Beng/beng/bengali Bhks/bhks/bhaiksuki ",
  "Bopo/bopo/bopomofo Brah/brah/brahmi Brai/brai/braille Bugi/bugi/buginese Buhd/buhd/buhid ",
  "Cakm/cakm/chakma Cans/cans/canadianaboriginal Cari/cari/carian Cham/cham Cher/cher/cherokee ",
  "Chrs/chrs/chorasmian Copt/copt/coptic/qaac Cpmn/cpmn/cyprominoan Cprt/cprt/cypriot ",
  "Cyrl/cyrl/cyrillic Deva/deva/devanagari Diak/diak/divesakuru Dogr/dogr/dogra ",
  "Dsrt/dsrt/deseret Dupl/dupl/duployan Egyp/egyp/egyptianhieroglyphs Elba/elba/elbasan ",
  "Elym/elym/elymaic Ethi/ethi/ethiopic Gara/gara/garay Geor/geor/georgian Glag/glag/glagolitic ",
  "Gong/gong/gunjalagondi Gonm/gonm/masaramgondi Goth/goth/gothic Gran/gran/grantha ",
  "Grek/grek/greek Gujr/gujr/gujarati Gukh/gukh/gurungkhema Guru/guru/gurmukhi Hang/hang/hangul ",
  "Hani/hani/han Hano/hano/hanunoo Hatr/hatr/hatran Hebr/hebr/hebrew Hira/hira/hiragana ",
  "Hluw/hluw/anatolianhieroglyphs Hmng/hmng/pahawhhmong Hmnp/hmnp/nyiakengpuachuehmong ",
  "Hung/hung/oldhungarian Ital/ital/olditalic Java/java/javanese Kali/kali/kayahli ",
  "Kana/kana/katakana Kawi/kawi Khar/khar/kharoshthi Khmr/khmr/khmer Khoj/khoj/khojki ",
  "Kits/kits/khitansmallscript Knda/knda/kannada Krai/krai/kiratrai Kthi/kthi/kaithi ",
  "Lana/lana/taitham Laoo/laoo/lao Latn/latn/latin Lepc/lepc/lepcha Limb/limb/limbu ",
  "Lina/lina/lineara Linb/linb/linearb Lisu/lisu Lyci/lyci/lycian Lydi/lydi/lydian ",
  "Mahj/mahj/mahajani Maka/maka/makasar Mand/mand/mandaic Mani/mani/manichaean ",
  "Marc/marc/marchen Medf/medf/medefaidrin Mend/mend/mendekikakui Merc/merc/meroiticcursive ",
  "Mero/mero/meroitichieroglyphs Mlym/mlym/malayalam Modi/modi Mong/mong/mongolian ",
  "Mroo/mroo/mro Mtei/mtei/meeteimayek Mult/mult/multani Mymr/mymr/myanmar Nagm/nagm/nagmundari ",
  "Nand/nand/nandinagari Narb/narb/oldnortharabian Nbat/nbat/nabataean Newa/newa Nkoo/nkoo/nko ",
  "Nshu/nshu/nushu Ogam/ogam/ogham Olck/olck/olchiki Onao/onao/olonal Orkh/orkh/oldturkic ",
  "Orya/orya/oriya Osge/osge/osage Osma/osma/osmanya Ougr/ougr/olduyghur Palm/palm/palmyrene ",
  "Pauc/pauc/paucinhau Perm/perm/oldpermic Phag/phag/phagspa Phli/phli/inscriptionalpahlavi ",
  "Phlp/phlp/psalterpahlavi Phnx/phnx/phoenician Plrd/plrd/miao Prti/prti/inscriptionalparthian ",
  "Rjng/rjng/rejang Rohg/rohg/hanifirohingya Runr/runr/runic Samr/samr/samaritan ",
  "Sarb/sarb/oldsoutharabian Saur/saur/saurashtra Sgnw/sgnw/signwriting Shaw/shaw/shavian ",
  "Shrd/shrd/sharada Sidd/sidd/siddham Sind/sind/khudawadi Sinh/sinh/sinhala Sogd/sogd/sogdian ",
  "Sogo/sogo/oldsogdian Sora/sora/sorasompeng Soyo/soyo/soyombo Sund/sund/sundanese ",
  "Sunu/sunu/sunuwar Sylo/sylo/sylotinagri Syrc/syrc/syriac Tagb/tagb/tagbanwa Takr/takr/takri ",
  "Tale/tale/taile Talu/talu/newtailue Taml/taml/tamil Tang/tang/tangut Tavt/tavt/taiviet ",
  "Telu/telu/telugu Tfng/tfng/tifinagh Tglg/tglg/tagalog Thaa/thaa/thaana Thai/thai ",
  "Tibt/tibt/tibetan Tirh/tirh/tirhuta Tnsa/tnsa/tangsa Todr/todr/todhri Toto/toto ",
  "Tutg/tutg/tulutigalari Ugar/ugar/ugaritic Vaii/vaii/vai Vith/vith/vithkuqi ",
  "Wara/wara/warangciti Wcho/wcho/wancho Xpeo/xpeo/oldpersian Xsux/xsux/cuneiform ",
  "Yezi/yezi/yezidi Yiii/yiii/yi Zanb/zanb/zanabazarsquare Zinh/zinh/inherited/qaai ",
  "Zyyy/zyyy/common"]

def scriptNames : List (String × List String) :=
  ((String.join scriptNameTable).splitOn " ").filterMap fun e =>
    match e.splitOn "/" with
    | code :: names => if code.isEmpty then none else some (code, names)
    | [] => none

/-- The code of the script with this name. -/
def scriptNamed? (name : String) : Option String :=
  (scriptNames.find? fun e => e.2.contains name).map (·.1)

end JsonSchema.Unicode
