/-!
# Names in ancient scripts

The scripts from Linear B to Miao.
-/

namespace Crontab.Text.Names

/-- The names from U+10000 on. -/
def ancient : List String :=
  ["@10000/0LINEAR B SYLLABLE B008 A/3B038 E/3B028 I/3B061 O/3B010 U/3B001 DA/3B045 DE/3B007 DI",
    "3B014 DO/3B051 DU/3B057 JA/3B046 JE/@1000D/3B036 JO/3B065 JU/3B077 KA/3B044 KE/3B067 KI",
    "3B070 KO/3B081 KU/3B080 MA/3B013 ME/3B073 MI/3B015 MO/3B023 MU/3B006 NA/3B024 NE/3B030 NI",
    "3B052 NO/3B055 NU/3B003 PA/3B072 PE/3B039 PI/3B011 PO/3B050 PU/3B016 QA/3B078 QE/3B021 QI",
    "3B032 QO/@10028/3B060 RA/3B027 RE/3B053 RI/3B002 RO/3B026 RU/3B031 SA/3B009 SE/3B041 SI",
    "3B012 SO/3B058 SU/3B059 TA/3B004 TE/3B037 TI/3B005 TO/3B069 TU/3B054 WA/3B075 WE/3B040 WI",
    "3B042 WO/@1003C/3B017 ZA/3B074 ZE/@1003F/3B020 ZO/3B025 A2/3B043 A3/3B085 AU/3B071 DWE",
    "3B090 DWO/3B048 NWA/3B029 PU2/3B062 PTE/3B076 RA2/3B033 RA3/3B068 RO2/3B066 TA2/3B087 TWE",
    "3B091 TWO/@10050/2SYMBOL B018/3B019/3B022/3B034/3B047/3B049/3B056/3B063/3B064/3B079/3B082",
    "3B083/3B086/3B089/@10080/2IDEOGRAM B100 MAN/3B102 WOMAN/3B104 DEER/3B105 EQUID/3B105F MARE",
    "3B105M STALLION/3B106F EWE/3B106M RAM/3B107F SHE-GOAT/3B107M HE-GOAT/3B108F SOW/3B108M BOAR",
    "3B109F COW/3B109M BULL/3B120 WHEAT/3B121 BARLEY/3B122 OLIVE/3B123 SPICE/3B125 CYPERUS",
    "2MONOGRAM B127 KAPO/3B128 KANAKO/2IDEOGRAM B130 OIL/3B131 WINE/3B132/2MONOGRAM B133 AREPA",
    "3B135 MERI/2IDEOGRAM B140 BRONZE/3B141 GOLD/3B142/3B145 WOOL/3B146/3B150/3B151 HORN/3B152",
    "3B153/3B154/2MONOGRAM B156 TURO2/2IDEOGRAM B157/3B158/3B159 CLOTH/3B160/3B161/3B162 GARMENT",
    "3B163 ARMOUR/3B164/3B165/3B166/3B167/3B168/3B169/3B170/3B171/3B172/3B173 MONTH/3B174",
    "3B176 TREE/3B177/3B178/3B179/3B180/3B181/3B182/3B183/3B184/3B185/3B189/3B190/3B191 HELMET",
    "3B220 FOOTSTOOL/3B225 BATHTUB/3B230 SPEAR/3B231 ARROW/3B232/3B233 SWORD/3B234/3B236",
    "3B240 WHEELED CHARIOT/3B241 CHARIOT/3B242 CHARIOT FRAME/3B243 WHEEL/3B245/3B246",
    "2MONOGRAM B247 DIPTE/2IDEOGRAM B248/3B249/3B251/3B252/3B253/3B254 DART/3B255/3B256/3B257",
    "3B258/3B259/3VESSEL B155/4B200/4B201/4B202/4B203/4B204/4B205/4B206/4B207/4B208/4B209/4B210",
    "4B211/4B212/4B213/4B214/4B215/4B216/4B217/4B218/4B219/4B221/4B222/4B226/4B227/4B228/4B229",
    "4B250/4B305/@10100/0AEGEAN WORD SEPARATOR LINE/3DOT/1CHECK MARK/@10107/1NUMBER ONE/2TWO",
    "2THREE/2FOUR/2FIVE/2SIX/2SEVEN/2EIGHT/2NINE/2TEN/2TWENTY/2THIRTY/2FORTY/2FIFTY/2SIXTY",
    "2SEVENTY/2EIGHTY/2NINETY/2ONE HUNDRED/2TWO HUNDRED/2THREE HUNDRED/2FOUR HUNDRED",
    "2FIVE HUNDRED/2SIX HUNDRED/2SEVEN HUNDRED/2EIGHT HUNDRED/2NINE HUNDRED/2ONE THOUSAND",
    "2TWO THOUSAND/2THREE THOUSAND/2FOUR THOUSAND/2FIVE THOUSAND/2SIX THOUSAND/2SEVEN THOUSAND",
    "2EIGHT THOUSAND/2NINE THOUSAND/2TEN THOUSAND/2TWENTY THOUSAND/2THIRTY THOUSAND",
    "2FORTY THOUSAND/2FIFTY THOUSAND/2SIXTY THOUSAND/2SEVENTY THOUSAND/2EIGHTY THOUSAND",
    "2NINETY THOUSAND/@10137/1WEIGHT BASE UNIT/2FIRST SUBUNIT/2SECOND SUBUNIT/2THIRD SUBUNIT",
    "2FOURTH SUBUNIT/1DRY MEASURE FIRST SUBUNIT/1LIQUID MEASURE FIRST SUBUNIT",
    "1MEASURE SECOND SUBUNIT/2THIRD SUBUNIT/0GREEK ACROPHONIC ATTIC ONE QUARTER/4HALF/4DRACHMA",
    "3FIVE/3FIFTY/3FIVE HUNDRED/4THOUSAND/3FIFTY THOUSAND/3FIVE TALENTS/3TEN TALENTS",
    "3FIFTY TALENTS/3ONE HUNDRED TALENTS/3FIVE HUNDRED TALENTS/3ONE THOUSAND TALENTS",
    "3FIVE THOUSAND TALENTS/4STATERS/3TEN STATERS/3FIFTY STATERS/3ONE HUNDRED STATERS",
    "3FIVE HUNDRED STATERS/3ONE THOUSAND STATERS/3TEN THOUSAND STATERS/3FIFTY THOUSAND STATERS",
    "3TEN MNAS/2HERAEUM ONE PLETHRON/2THESPIAN ONE/2HERMIONIAN ONE/2EPIDAUREAN TWO/2THESPIAN TWO",
    "2CYRENAIC TWO DRACHMAS/2EPIDAUREAN TWO DRACHMAS/2TROEZENIAN FIVE/3TEN/4ALTERNATE FORM",
    "2HERMIONIAN TEN/2MESSENIAN TEN/2THESPIAN TEN/3THIRTY/2TROEZENIAN FIFTY/4ALTERNATE FORM",
    "2HERMIONIAN FIFTY/2THESPIAN FIFTY/3ONE HUNDRED/3THREE HUNDRED/2EPIDAUREAN FIVE HUNDRED",
    "2TROEZENIAN FIVE HUNDRED/2THESPIAN FIVE HUNDRED/2CARYSTIAN FIVE HUNDRED/2NAXIAN FIVE HUNDRED",
    "2THESPIAN ONE THOUSAND/3FIVE THOUSAND/2DELPHIC FIVE MNAS/2STRATIAN FIFTY MNAS/1ONE HALF SIGN",
    "4ALTERNATE FORM/1TWO THIRDS SIGN/1THREE QUARTERS SIGN/1YEAR SIGN/1TALENT SIGN/1DRACHMA SIGN",
    "1OBOL SIGN/1TWO OBOLS SIGN/1THREE OBOLS SIGN/1FOUR OBOLS SIGN/1FIVE OBOLS SIGN",
    "1METRETES SIGN/1KYATHOS BASE SIGN/1LITRA SIGN/1OUNKIA SIGN/1XESTES SIGN/1ARTABE SIGN",
    "1AROURA SIGN/1GRAMMA SIGN/1TRYBLION BASE SIGN/1ZERO SIGN/1ONE QUARTER SIGN/1SINUSOID SIGN",
    "1INDICTION SIGN/0NOMISMA SIGN/@10190/0ROMAN SEXTANS SIGN/1UNCIA SIGN/1SEMUNCIA SIGN",
    "1SEXTULA SIGN/1DIMIDIA SEXTULA SIGN/1SILIQUA SIGN/1DENARIUS SIGN/1QUINARIUS SIGN",
    "1SESTERTIUS SIGN/1DUPONDIUS SIGN/1AS SIGN/1CENTURIAL SIGN/0ASCIA SYMBOL",
    "@101A0/0GREEK SYMBOL TAU RHO/@101D0/0PHAISTOS DISC SIGN PEDESTRIAN/3PLUMED HEAD",
    "3TATTOOED HEAD/3CAPTIVE/3CHILD/3WOMAN/3HELMET/3GAUNTLET/3TIARA/3ARROW/3BOW/3SHIELD/3CLUB",
    "3MANACLES/3MATTOCK/3SAW/3LID/3BOOMERANG/3CARPENTRY PLANE/3DOLIUM/3COMB/3SLING/3COLUMN",
    "3BEEHIVE/3SHIP/3HORN/3HIDE/3BULLS LEG/3CAT/3RAM/3EAGLE/3DOVE/3TUNNY/3BEE/3PLANE TREE/3VINE",
    "3PAPYRUS/3ROSETTE/3LILY/3OX BACK/3FLUTE/3GRATER/3STRAINER/3SMALL AXE/3WAVY BAND",
    "3COMBINING OBLIQUE STROKE/@10280/0LYCIAN LETTER A/2E/2B/2BH/2G/2D/2I/2W/2Z/2TH/2J/2K/2Q/2L",
    "2M/2N/2MM/2NN/2U/2P/2KK/2R/2S/2T/2TT/2AN/2EN/2H/2X/@102A0/0CARIAN LETTER A/2P2/2D/2L/2UUU/2R",
    "2LD/2A2/2Q/2B/2M/2O/2D2/2T/2SH/2SH2/2S/2C-18/2U/2NN/2X/2N/2TT2/2P/2SS/2I/2E/2UUUU/2K/2K2/2ND",
    "2UU/2G/2G2/2ST/2ST2/2NG/2II/2C-39/2TT/2UUU2/2RR/2MB/2MB2/2MB3/2MB4/2LD2/2E2/2UUU3",
    "@102E0/0COPTIC EPACT THOUSANDS MARK/2DIGIT ONE/3TWO/3THREE/3FOUR/3FIVE/3SIX/3SEVEN/3EIGHT",
    "3NINE/2NUMBER TEN/3TWENTY/3THIRTY/3FORTY/3FIFTY/3SIXTY/3SEVENTY/3EIGHTY/3NINETY/3ONE HUNDRED",
    "3TWO HUNDRED/3THREE HUNDRED/3FOUR HUNDRED/3FIVE HUNDRED/3SIX HUNDRED/3SEVEN HUNDRED",
    "3EIGHT HUNDRED/3NINE HUNDRED/@10300/0OLD ITALIC LETTER A/3BE/3KE/3DE/3E/3VE/3ZE/3HE/3THE/3I",
    "3KA/3EL/3EM/3EN/3ESH/3O/3PE/3SHE/3KU/3ER/3ES/3TE/3U/3EKS/3PHE/3KHE/3EF/3ERS/3CHE/3II/3UU",
    "3ESS/2NUMERAL ONE/3FIVE/3TEN/3FIFTY/@1032D/2LETTER YE/3NORTHERN TSE/3SOUTHERN TSE",
    "0GOTHIC LETTER AHSA/2BAIRKAN/2GIBA/2DAGS/2AIHVUS/2QAIRTHRA/2IUJA/2HAGL/2THIUTH/2EIS/2KUSMA",
    "2LAGUS/2MANNA/2NAUTHS/2JER/2URUS/2PAIRTHRA/2NINETY/2RAIDA/2SAUIL/2TEIWS/2WINJA/2FAIHU/2IGGWS",
    "2HWAIR/2OTHAL/2NINE HUNDRED/@10350/0OLD PERMIC LETTER AN/3BUR/3GAI/3DOI/3E/3ZHOI/3DZHOI",
    "3ZATA/3DZITA/3I/3KOKE/3LEI/3MENOE/3NENOE/3VOOI/3PEEI/3REI/3SII/3TAI/3U/3CHERY/3SHOOI",
    "3SHCHOOI/3YRY/3YERU/3O/3OO/3EF/3HA/3TSIU/3VER/3YER/3YERI/3YAT/3IE/3YU/3YA/3IA",
    "0COMBINING OLD PERMIC LETTER AN/4DOI/4ZATA/4NENOE/4SII/@10380/0UGARITIC LETTER ALPA/2BETA",
    "2GAMLA/2KHA/2DELTA/2HO/2WO/2ZETA/2HOTA/2TET/2YOD/2KAF/2SHIN/2LAMDA/2MEM/2DHAL/2NUN/2ZU",
    "2SAMKA/2AIN/2PU/2SADE/2QOPA/2RASHA/2THANNA/2GHAIN/2TO/2I/2U/2SSU/@1039F/1WORD DIVIDER",
    "0OLD PERSIAN SIGN A/3I/3U/3KA/3KU/3GA/3GU/3XA/3CA/3JA/3JI/3TA/3TU/3DA/3DI/3DU/3THA/3PA/3BA",
    "3FA/3NA/3NU/3MA/3MI/3MU/3YA/3VA/3VI/3RA/3RU/3LA/3SA/3ZA/3SHA/3SSA/3HA/@103C8/3AURAMAZDAA",
    "3AURAMAZDAA-2/3AURAMAZDAAHA/3XSHAAYATHIYA/3DAHYAAUSH/3DAHYAAUSH-2/3BAGA/3BUUMISH",
    "2WORD DIVIDER/2NUMBER ONE/3TWO/3TEN/3TWENTY/3HUNDRED/@10400/0DESERET CAPITAL LETTER LONG I",
    "4E/4A/4AH/4O/4OO/3SHORT I/4E/4A/4AH/4O/4OO/3AY/3OW/3WU/3YEE/3H/3PEE/3BEE/3TEE/3DEE/3CHEE",
    "3JEE/3KAY/3GAY/3EF/3VEE/3ETH/3THEE/3ES/3ZEE/3ESH/3ZHEE/3ER/3EL/3EM/3EN/3ENG/3OI/3EW",
    "1SMALL LETTER LONG I/4E/4A/4AH/4O/4OO/3SHORT I/4E/4A/4AH/4O/4OO/3AY/3OW/3WU/3YEE/3H/3PEE",
    "3BEE/3TEE/3DEE/3CHEE/3JEE/3KAY/3GAY/3EF/3VEE/3ETH/3THEE/3ES/3ZEE/3ESH/3ZHEE/3ER/3EL/3EM/3EN",
    "3ENG/3OI/3EW/0SHAVIAN LETTER PEEP/2TOT/2KICK/2FEE/2THIGH/2SO/2SURE/2CHURCH/2YEA/2HUNG/2BIB",
    "2DEAD/2GAG/2VOW/2THEY/2ZOO/2MEASURE/2JUDGE/2WOE/2HA-HA/2LOLL/2MIME/2IF/2EGG/2ASH/2ADO/2ON",
    "2WOOL/2OUT/2AH/2ROAR/2NUN/2EAT/2AGE/2ICE/2UP/2OAK/2OOZE/2OIL/2AWE/2ARE/2OR/2AIR/2ERR/2ARRAY",
    "2EAR/2IAN/2YEW/0OSMANYA LETTER ALEF/2BA/2TA/2JA/2XA/2KHA/2DEEL/2RA/2SA/2SHIIN/2DHA/2CAYN/2GA",
    "2FA/2QAAF/2KAAF/2LAAN/2MIIN/2NUUN/2WAW/2HA/2YA/2A/2E/2I/2O/2U/2AA/2EE/2OO/@104A0/1DIGIT ZERO",
    "2ONE/2TWO/2THREE/2FOUR/2FIVE/2SIX/2SEVEN/2EIGHT/2NINE/@104B0/0OSAGE CAPITAL LETTER A/3AI",
    "3AIN/3AH/3BRA/3CHA/3EHCHA/3E/3EIN/3HA/3HYA/3I/3KA/3EHKA/3KYA/3LA/3MA/3NA/3O/3OIN/3PA/3EHPA",
    "3SA/3SHA/3TA/3EHTA/3TSA/3EHTSA/3TSHA/3DHA/3U/3WA/3KHA/3GHA/3ZA/3ZHA/@104D8/1SMALL LETTER A",
    "3AI/3AIN/3AH/3BRA/3CHA/3EHCHA/3E/3EIN/3HA/3HYA/3I/3KA/3EHKA/3KYA/3LA/3MA/3NA/3O/3OIN/3PA",
    "3EHPA/3SA/3SHA/3TA/3EHTA/3TSA/3EHTSA/3TSHA/3DHA/3U/3WA/3KHA/3GHA/3ZA/3ZHA",
    "@10500/0ELBASAN LETTER A/2BE/2CE/2CHE/2DE/2NDE/2DHE/2EI/2E/2FE/2GE/2GJE/2HE/2I/2JE/2KE/2LE",
    "2LLE/2ME/2NE/2NA/2NJE/2O/2PE/2QE/2RE/2RRE/2SE/2SHE/2TE/2THE/2U/2VE/2XE/2Y/2ZE/2ZHE/2GHE",
    "2GHAMMA/2KHE/@10530/0CAUCASIAN ALBANIAN LETTER ALT/3BET/3GIM/3DAT/3EB/3ZARL/3EYN/3ZHIL/3TAS",
    "3CHA/3YOWD/3ZHA/3IRB/3SHA/3LAN/3INYA/3XEYN/3DYAN/3CAR/3JHOX/3KAR/3LYIT/3HEYT/3QAY/3AOR/3CHOY",
    "3CHI/3CYAY/3MAQ/3QAR/3NOWC/3DZYAY/3SHAK/3JAYN/3ON/3TYAY/3FAM/3DZAY/3CHAT/3PEN/3GHEYS/3RAT",
    "3SEYK/3VEYZ/3TIWR/3SHOY/3IWN/3CYAW/3CAYN/3YAYD/3PIWR/3KIW/@1056F/2CITATION MARK",
    "0VITHKUQI CAPITAL LETTER A/3BBE/3BE/3CE/3CHE/3DE/3DHE/3EI/3E/3FE/3GA/@1057C/3HA/3HHA/3I/3IJE",
    "3JE/3KA/3LA/3LLA/3ME/3NE/3NJE/3O/3PE/3QA/3RE/@1058C/3SE/3SHE/3TE/3THE/3U/3VE/3XE/@10594/3Y",
    "3ZE/@10597/1SMALL LETTER A/3BBE/3BE/3CE/3CHE/3DE/3DHE/3EI/3E/3FE/3GA/@105A3/3HA/3HHA/3I/3IJE",
    "3JE/3KA/3LA/3LLA/3ME/3NE/3NJE/3O/3PE/3QA/3RE/@105B3/3SE/3SHE/3TE/3THE/3U/3VE/3XE/@105BB/3Y",
    "3ZE/@10600/0LINEAR A SIGN AB001/3AB002/3AB003/3AB004/3AB005/3AB006/3AB007/3AB008/3AB009",
    "3AB010/3AB011/3AB013/3AB016/3AB017/3AB020/3AB021/3AB021F/3AB021M/3AB022/3AB022F/3AB022M",
    "3AB023/3AB023M/3AB024/3AB026/3AB027/3AB028/3A028B/3AB029/3AB030/3AB031/3AB034/3AB037/3AB038",
    "3AB039/3AB040/3AB041/3AB044/3AB045/3AB046/3AB047/3AB048/3AB049/3AB050/3AB051/3AB053/3AB054",
    "3AB055/3AB056/3AB057/3AB058/3AB059/3AB060/3AB061/3AB065/3AB066/3AB067/3AB069/3AB070/3AB073",
    "3AB074/3AB076/3AB077/3AB078/3AB079/3AB080/3AB081/3AB082/3AB085/3AB086/3AB087/3A100-102",
    "3AB118/3AB120/3A120B/3AB122/3AB123/3AB131A/3AB131B/3A131C/3AB164/3AB171/3AB180/3AB188/3AB191",
    "3A301/3A302/3A303/3A304/3A305/3A306/3A307/3A308/3A309A/3A309B/3A309C/3A310/3A311/3A312",
    "3A313A/3A313B/3A313C/3A314/3A315/3A316/3A317/3A318/3A319/3A320/3A321/3A322/3A323/3A324/3A325",
    "3A326/3A327/3A328/3A329/3A330/3A331/3A332/3A333/3A334/3A335/3A336/3A337/3A338/3A339/3A340",
    "3A341/3A342/3A343/3A344/3A345/3A346/3A347/3A348/3A349/3A350/3A351/3A352/3A353/3A354/3A355",
    "3A356/3A357/3A358/3A359/3A360/3A361/3A362/3A363/3A364/3A365/3A366/3A367/3A368/3A369/3A370",
    "3A371/3A400-VAS/3A401-VAS/3A402-VAS/3A403-VAS/3A404-VAS/3A405-VAS/3A406-VAS/3A407-VAS",
    "3A408-VAS/3A409-VAS/3A410-VAS/3A411-VAS/3A412-VAS/3A413-VAS/3A414-VAS/3A415-VAS/3A416-VAS",
    "3A417-VAS/3A418-VAS/3A501/3A502/3A503/3A504/3A505/3A506/3A508/3A509/3A510/3A511/3A512/3A513",
    "3A515/3A516/3A520/3A521/3A523/3A524/3A525/3A526/3A527/3A528/3A529/3A530/3A531/3A532/3A534",
    "3A535/3A536/3A537/3A538/3A539/3A540/3A541/3A542/3A545/3A547/3A548/3A549/3A550/3A551/3A552",
    "3A553/3A554/3A555/3A556/3A557/3A559/3A563/3A564/3A565/3A566/3A568/3A569/3A570/3A571/3A572",
    "3A573/3A574/3A575/3A576/3A577/3A578/3A579/3A580/3A581/3A582/3A583/3A584/3A585/3A586/3A587",
    "3A588/3A589/3A591/3A592/3A594/3A595/3A596/3A598/3A600/3A601/3A602/3A603/3A604/3A606/3A608",
    "3A609/3A610/3A611/3A612/3A613/3A614/3A615/3A616/3A617/3A618/3A619/3A620/3A621/3A622/3A623",
    "3A624/3A626/3A627/3A628/3A629/3A634/3A637/3A638/3A640/3A642/3A643/3A644/3A645/3A646/3A648",
    "3A649/3A651/3A652/3A653/3A654/3A655/3A656/3A657/3A658/3A659/3A660/3A661/3A662/3A663/3A664",
    "@10740/3A701 A/3A702 B/3A703 D/3A704 E/3A705 F/3A706 H/3A707 J/3A708 K/3A709 L/3A709-2 L2",
    "3A709-3 L3/3A709-4 L4/3A709-6 L6/3A710 W/3A711 X/3A712 Y/3A713 OMEGA/3A714 ABB/3A715 BB",
    "3A717 DD/3A726 EYYY/3A732 JE/@10760/3A800/3A801/3A802/3A803/3A804/3A805/3A806/3A807",
    "@10780/0MODIFIER LETTER SMALL CAPITAL AA/2SUPERSCRIPT TRIANGULAR COLON",
    "3HALF TRIANGULAR COLON/2SMALL AE/3CAPITAL B/3B WITH HOOK/@10787/3DZ DIGRAPH",
    "5WITH RETROFLEX HOOK/6CURL/3DEZH DIGRAPH/3D WITH TAIL/5HOOK/6AND TAIL/3REVERSED E",
    "3CLOSED REVERSED OPEN E/3FENG DIGRAPH/3RAMS HORN/3CAPITAL G/3G WITH HOOK",
    "3CAPITAL G WITH HOOK/3H WITH STROKE/3CAPITAL H/3HENG WITH HOOK",
    "3DOTLESS J WITH STROKE AND HOOK/3LS DIGRAPH/3LZ DIGRAPH/3L WITH BELT/3CAPITAL L WITH BELT",
    "3L WITH RETROFLEX HOOK AND BELT/3LEZH/4WITH RETROFLEX HOOK/3TURNED Y/5WITH BELT",
    "3O WITH STROKE/3CAPITAL OE/3CLOSED OMEGA/3Q/3TURNED R WITH LONG LEG/8AND RETROFLEX HOOK",
    "3R WITH TAIL/5FISHHOOK/3CAPITAL R/3TC DIGRAPH WITH CURL/3TS DIGRAPH/5WITH RETROFLEX HOOK",
    "3TESH DIGRAPH/3T WITH RETROFLEX HOOK/3V WITH RIGHT HOOK/@107B2/3CAPITAL Y",
    "2GLOTTAL STOP WITH STROKE/2REVERSED GLOTTAL STOP WITH STROKE/2BILABIAL CLICK/2DENTAL CLICK",
    "2LATERAL CLICK/2ALVEOLAR CLICK/2RETROFLEX CLICK WITH RETROFLEX HOOK/2SMALL S WITH CURL",
    "@10800/0CYPRIOT SYLLABLE A/2E/2I/2O/2U/2JA/@10808/2JO/@1080A/2KA/2KE/2KI/2KO/2KU/2LA/2LE/2LI",
    "2LO/2LU/2MA/2ME/2MI/2MO/2MU/2NA/2NE/2NI/2NO/2NU/2PA/2PE/2PI/2PO/2PU/2RA/2RE/2RI/2RO/2RU/2SA",
    "2SE/2SI/2SO/2SU/2TA/2TE/2TI/2TO/2TU/2WA/2WE/2WI/2WO/@10837/2XA/2XE/@1083C/2ZA/@1083F/2ZO",
    "0IMPERIAL ARAMAIC LETTER ALEPH/3BETH/3GIMEL/3DALETH/3HE/3WAW/3ZAYIN/3HETH/3TETH/3YODH/3KAPH",
    "3LAMEDH/3MEM/3NUN/3SAMEKH/3AYIN/3PE/3SADHE/3QOPH/3RESH/3SHIN/3TAW/@10857/2SECTION SIGN",
    "2NUMBER ONE/3TWO/3THREE/3TEN/3TWENTY/3ONE HUNDRED/4THOUSAND/3TEN THOUSAND",
    "0PALMYRENE LETTER ALEPH/2BETH/2GIMEL/2DALETH/2HE/2WAW/2ZAYIN/2HETH/2TETH/2YODH/2KAPH/2LAMEDH",
    "2MEM/2FINAL NUN/2NUN/2SAMEKH/2AYIN/2PE/2SADHE/2QOPH/2RESH/2SHIN/2TAW/1LEFT-POINTING FLEURON",
    "1RIGHT-POINTING FLEURON/1NUMBER ONE/2TWO/2THREE/2FOUR/2FIVE/2TEN/2TWENTY",
    "0NABATAEAN LETTER FINAL ALEPH/2ALEPH/2FINAL BETH/2BETH/2GIMEL/2DALETH/2FINAL HE/2HE/2WAW",
    "2ZAYIN/2HETH/2TETH/2FINAL YODH/2YODH/2FINAL KAPH/2KAPH/2FINAL LAMEDH/2LAMEDH/2FINAL MEM/2MEM",
    "2FINAL NUN/2NUN/2SAMEKH/2AYIN/2PE/2SADHE/2QOPH/2RESH/2FINAL SHIN/2SHIN/2TAW",
    "@108A7/1NUMBER ONE/2TWO/2THREE/2FOUR/1CRUCIFORM NUMBER FOUR/1NUMBER FIVE/2TEN/2TWENTY",
    "2ONE HUNDRED/@108E0/0HATRAN LETTER ALEPH/2BETH/2GIMEL/2DALETH-RESH/2HE/2WAW/2ZAYN/2HETH",
    "2TETH/2YODH/2KAPH/2LAMEDH/2MEM/2NUN/2SAMEKH/2AYN/2PE/2SADHE/2QOPH/@108F4/2SHIN/2TAW",
    "@108FB/1NUMBER ONE/2FIVE/2TEN/2TWENTY/2ONE HUNDRED/0PHOENICIAN LETTER ALF/2BET/2GAML/2DELT",
    "2HE/2WAU/2ZAI/2HET/2TET/2YOD/2KAF/2LAMD/2MEM/2NUN/2SEMK/2AIN/2PE/2SADE/2QOF/2ROSH/2SHIN/2TAU",
    "1NUMBER ONE/2TEN/2TWENTY/2ONE HUNDRED/2TWO/2THREE/@1091F/1WORD SEPARATOR/0LYDIAN LETTER A/2B",
    "2G/2D/2E/2V/2I/2Y/2K/2L/2M/2N/2O/2R/2SS/2T/2U/2F/2Q/2S/2TT/2AN/2EN/2LY/2NN/2C",
    "@1093F/1TRIANGULAR MARK/@10980/0MEROITIC HIEROGLYPHIC LETTER A/3E/3I/3O/3YA/3WA/3BA/3BA-2",
    "3PA/3MA/3NA/3NA-2/3NE/3NE-2/3RA/3RA-2/3LA/3KHA/3HHA/3SA/3SA-2/3SE/3KA/3QA/3TA/3TA-2/3TE",
    "3TE-2/3TO/3DA/2SYMBOL VIDJ/3VIDJ-2/1CURSIVE LETTER A/3E/3I/3O/3YA/3WA/3BA/3PA/3MA/3NA/3NE",
    "3RA/3LA/3KHA/3HHA/3SA/3ARCHAIC SA/3SE/3KA/3QA/3TA/3TE/3TO/3DA",
    "@109BC/2FRACTION ELEVEN TWELFTHS/3ONE HALF/2LOGOGRAM RMT/3IMN/2NUMBER ONE/3TWO/3THREE/3FOUR",
    "3FIVE/3SIX/3SEVEN/3EIGHT/3NINE/3TEN/3TWENTY/3THIRTY/3FORTY/3FIFTY/3SIXTY/3SEVENTY",
    "@109D2/3ONE HUNDRED/3TWO HUNDRED/3THREE HUNDRED/3FOUR HUNDRED/3FIVE HUNDRED/3SIX HUNDRED",
    "3SEVEN HUNDRED/3EIGHT HUNDRED/3NINE HUNDRED/3ONE THOUSAND/3TWO THOUSAND/3THREE THOUSAND",
    "3FOUR THOUSAND/3FIVE THOUSAND/3SIX THOUSAND/3SEVEN THOUSAND/3EIGHT THOUSAND/3NINE THOUSAND",
    "3TEN THOUSAND/3TWENTY THOUSAND/3THIRTY THOUSAND/3FORTY THOUSAND/3FIFTY THOUSAND",
    "3SIXTY THOUSAND/3SEVENTY THOUSAND/3EIGHTY THOUSAND/3NINETY THOUSAND/3ONE HUNDRED THOUSAND",
    "3TWO HUNDRED THOUSAND/3THREE HUNDRED THOUSAND/3FOUR HUNDRED THOUSAND/3FIVE HUNDRED THOUSAND",
    "3SIX HUNDRED THOUSAND/3SEVEN HUNDRED THOUSAND/3EIGHT HUNDRED THOUSAND/3NINE HUNDRED THOUSAND",
    "2FRACTION ONE TWELFTH/3TWO TWELFTHS/3THREE TWELFTHS/3FOUR TWELFTHS/3FIVE TWELFTHS",
    "3SIX TWELFTHS/3SEVEN TWELFTHS/3EIGHT TWELFTHS/3NINE TWELFTHS/3TEN TWELFTHS",
    "0KHAROSHTHI LETTER A/1VOWEL SIGN I/3U/3VOCALIC R/@10A05/3E/3O/@10A0C/2LENGTH MARK",
    "1SIGN DOUBLE RING BELOW/2ANUSVARA/2VISARGA/1LETTER KA/2KHA/2GA/2GHA/@10A15/2CA/2CHA/2JA",
    "@10A19/2NYA/2TTA/2TTHA/2DDA/2DDHA/2NNA/2TA/2THA/2DA/2DHA/2NA/2PA/2PHA/2BA/2BHA/2MA/2YA/2RA",
    "2LA/2VA/2SHA/2SSA/2SA/2ZA/2HA/2KKA/2TTTHA/2TTTA/2VHA/@10A38/1SIGN BAR ABOVE/2CAUDA",
    "2DOT BELOW/@10A3F/1VIRAMA/1DIGIT ONE/2TWO/2THREE/2FOUR/1NUMBER TEN/2TWENTY/2ONE HUNDRED",
    "3THOUSAND/1FRACTION ONE HALF/@10A50/1PUNCTUATION DOT/2SMALL CIRCLE/2CIRCLE/2CRESCENT BAR",
    "2MANGALAM/2LOTUS/2DANDA/2DOUBLE DANDA/2LINES/@10A60/0OLD SOUTH ARABIAN LETTER HE/4LAMEDH",
    "4HETH/4MEM/4QOPH/4WAW/4SHIN/4RESH/4BETH/4TAW/4SAT/4KAPH/4NUN/4KHETH/4SADHE/4SAMEKH/4FE/4ALEF",
    "4AYN/4DHADHE/4GIMEL/4DALETH/4GHAYN/4TETH/4ZAYN/4DHALETH/4YODH/4THAW/4THETH/3NUMBER ONE",
    "4FIFTY/3NUMERIC INDICATOR/1NORTH ARABIAN LETTER HEH/4LAM/4HAH/4MEEM/4QAF/4WAW/4ES-2/4REH",
    "4BEH/4TEH/4ES-1/4KAF/4NOON/4KHAH/4SAD/4ES-3/4FEH/4ALEF/4AIN/4DAD/4GEEM/4DAL/4GHAIN/4TAH",
    "4ZAIN/4THAL/4YEH/4THEH/4ZAH/3NUMBER ONE/4TEN/4TWENTY/@10AC0/0MANICHAEAN LETTER ALEPH/2BETH",
    "2BHETH/2GIMEL/2GHIMEL/2DALETH/2HE/2WAW/1SIGN UD/1LETTER ZAYIN/2ZHAYIN/2JAYIN/2JHAYIN/2HETH",
    "2TETH/2YODH/2KAPH/2XAPH/2KHAPH/2LAMEDH/2DHAMEDH/2THAMEDH/2MEM/2NUN/2SAMEKH/2AYIN/2AAYIN/2PE",
    "2FE/2SADHE/2QOPH/2XOPH/2QHOPH/2RESH/2SHIN/2SSHIN/2TAW/1ABBREVIATION MARK ABOVE/3BELOW",
    "@10AEB/1NUMBER ONE/2FIVE/2TEN/2TWENTY/2ONE HUNDRED/1PUNCTUATION STAR/2FLEURON",
    "2DOUBLE DOT WITHIN DOT/2DOT WITHIN DOT/3/2TWO DOTS/2LINE FILLER/@10B00/0AVESTAN LETTER A/2AA",
    "2AO/2AAO/2AN/2AAN/2AE/2AEE/2E/2EE/2O/2OO/2I/2II/2U/2UU/2KE/2XE/2XYE/2XVE/2GE/2GGE/2GHE/2CE",
    "2JE/2TE/2THE/2DE/2DHE/2TTE/2PE/2FE/2BE/2BHE/2NGE/2NGYE/2NGVE/2NE/2NYE/2NNE/2ME/2HME/2YYE/2YE",
    "2VE/2RE/2LE/2SE/2ZE/2SHE/2ZHE/2SHYE/2SSHE/2HE/@10B39/1ABBREVIATION MARK",
    "0TINY TWO DOTS OVER ONE DOT PUNCTUATION/0SMALL TWO DOTS OVER ONE DOT PUNCTUATION",
    "0LARGE TWO DOTS OVER ONE DOT PUNCTUATION/1ONE DOT OVER TWO DOTS PUNCTUATION",
    "1TWO RINGS OVER ONE RING PUNCTUATION/1ONE RING OVER TWO RINGS PUNCTUATION",
    "0INSCRIPTIONAL PARTHIAN LETTER ALEPH/3BETH/3GIMEL/3DALETH/3HE/3WAW/3ZAYIN/3HETH/3TETH/3YODH",
    "3KAPH/3LAMEDH/3MEM/3NUN/3SAMEKH/3AYIN/3PE/3SADHE/3QOPH/3RESH/3SHIN/3TAW/@10B58/2NUMBER ONE",
    "3TWO/3THREE/3FOUR/3TEN/3TWENTY/3ONE HUNDRED/4THOUSAND/1PAHLAVI LETTER ALEPH/3BETH/3GIMEL",
    "3DALETH/3HE/3WAW-AYIN-RESH/3ZAYIN/3HETH/3TETH/3YODH/3KAPH/3LAMEDH/3MEM-QOPH/3NUN/3SAMEKH/3PE",
    "3SADHE/3SHIN/3TAW/@10B78/2NUMBER ONE/3TWO/3THREE/3FOUR/3TEN/3TWENTY/3ONE HUNDRED/4THOUSAND",
    "0PSALTER PAHLAVI LETTER ALEPH/3BETH/3GIMEL/3DALETH/3HE/3WAW-AYIN-RESH/3ZAYIN/3HETH/3YODH",
    "3KAPH/3LAMEDH/3MEM-QOPH/3NUN/3SAMEKH/3PE/3SADHE/3SHIN/3TAW/@10B99/2SECTION MARK",
    "2TURNED SECTION MARK/2FOUR DOTS WITH CROSS/5DOT/@10BA9/2NUMBER ONE/3TWO/3THREE/3FOUR/3TEN",
    "3TWENTY/3ONE HUNDRED/@10C00/0OLD TURKIC LETTER ORKHON A/3YENISEI A/4AE/3ORKHON I/3YENISEI I",
    "4E/3ORKHON O/4OE/3YENISEI OE/3ORKHON AB/3YENISEI AB/3ORKHON AEB/3YENISEI AEB/3ORKHON AG",
    "3YENISEI AG/3ORKHON AEG/3YENISEI AEG/3ORKHON AD/3YENISEI AD/3ORKHON AED/4EZ/3YENISEI EZ",
    "3ORKHON AY/3YENISEI AY/3ORKHON AEY/3YENISEI AEY/3ORKHON AEK/3YENISEI AEK/3ORKHON OEK",
    "3YENISEI OEK/3ORKHON AL/3YENISEI AL/3ORKHON AEL/4ELT/4EM/4AN/4AEN/3YENISEI AEN/3ORKHON ENT",
    "3YENISEI ENT/3ORKHON ENC/3YENISEI ENC/3ORKHON ENY/3YENISEI ENY/4ANG/3ORKHON ENG",
    "3YENISEI AENG/3ORKHON EP/4OP/4IC/4EC/3YENISEI EC/3ORKHON AQ/3YENISEI AQ/3ORKHON IQ",
    "3YENISEI IQ/3ORKHON OQ/3YENISEI OQ/3ORKHON AR/3YENISEI AR/3ORKHON AER/4AS/4AES/4ASH",
    "3YENISEI ASH/3ORKHON ESH/3YENISEI ESH/3ORKHON AT/3YENISEI AT/3ORKHON AET/3YENISEI AET",
    "3ORKHON OT/4BASH/@10C80/1HUNGARIAN CAPITAL LETTER A/4AA/4EB/4AMB/4EC/4ENC/4ECS/4ED/4AND/4E",
    "4CLOSE E/4EE/4EF/4EG/4EGY/4EH/4I/4II/4EJ/4EK/4AK/4UNK/4EL/4ELY/4EM/4EN/4ENY/4O/4OO",
    "4NIKOLSBURG OE/4RUDIMENTA OE/4OEE/4EP/4EMP/4ER/4SHORT ER/4ES/4ESZ/4ET/4ENT/4ETY/4ECH/4U/4UU",
    "4NIKOLSBURG UE/4RUDIMENTA UE/4EV/4EZ/4EZS/4ENT-SHAPED SIGN/4US/@10CC0/2SMALL LETTER A/4AA",
    "4EB/4AMB/4EC/4ENC/4ECS/4ED/4AND/4E/4CLOSE E/4EE/4EF/4EG/4EGY/4EH/4I/4II/4EJ/4EK/4AK/4UNK/4EL",
    "4ELY/4EM/4EN/4ENY/4O/4OO/4NIKOLSBURG OE/4RUDIMENTA OE/4OEE/4EP/4EMP/4ER/4SHORT ER/4ES/4ESZ",
    "4ET/4ENT/4ETY/4ECH/4U/4UU/4NIKOLSBURG UE/4RUDIMENTA UE/4EV/4EZ/4EZS/4ENT-SHAPED SIGN/4US",
    "@10CFA/2NUMBER ONE/3FIVE/3TEN/3FIFTY/3ONE HUNDRED/4THOUSAND/0HANIFI ROHINGYA LETTER A/3BA",
    "3PA/3TA/3TTA/3JA/3CA/3HA/3KHA/3FA/3DA/3DDA/3RA/3RRA/3ZA/3SA/3SHA/3KA/3GA/3LA/3MA/3NA/3WA",
    "3KINNA WA/3YA/3KINNA YA/3NGA/3NYA/3VA/2VOWEL A/3I/3U/3E/3O/2MARK SAKIN/3NA KHONNA",
    "2SIGN HARBAHAY/3TAHALA/3TANA/3TASSI/@10D30/2DIGIT ZERO/3ONE/3TWO/3THREE/3FOUR/3FIVE/3SIX",
    "3SEVEN/3EIGHT/3NINE/@10E60/0RUMI DIGIT ONE/2TWO/2THREE/2FOUR/2FIVE/2SIX/2SEVEN/2EIGHT/2NINE",
    "1NUMBER TEN/2TWENTY/2THIRTY/2FORTY/2FIFTY/2SIXTY/2SEVENTY/2EIGHTY/2NINETY/2ONE HUNDRED",
    "2TWO HUNDRED/2THREE HUNDRED/2FOUR HUNDRED/2FIVE HUNDRED/2SIX HUNDRED/2SEVEN HUNDRED",
    "2EIGHT HUNDRED/2NINE HUNDRED/1FRACTION ONE HALF/3QUARTER/3THIRD/2TWO THIRDS",
    "@10E80/0YEZIDI LETTER ELIF/2BE/2PE/2PHE/2THE/2SE/2CIM/2CHIM/2CHHIM/2HHA/2XA/2DAL/2ZAL/2RA",
    "2RHA/2ZA/2JA/2SIN/2SHIN/2SAD/2DAD/2TA/2ZE/2EYN/2XHEYN/2FA/2VA/3ALTERNATE FORM/2QAF/2KAF",
    "2KHAF/2GAF/2LAM/2MIM/2NUN/2UM/2WAW/2OW/2EW/2HAY/2YOT/2ET/@10EAB/1COMBINING HAMZA MARK",
    "2MADDA MARK/1HYPHENATION MARK/@10EB0/1LETTER LAM WITH DOT ABOVE/2YOT WITH CIRCUMFLEX ABOVE",
    "@10F00/0OLD SOGDIAN LETTER ALEPH/3FINAL ALEPH/3BETH/3FINAL BETH/3GIMEL/3HE/3FINAL HE/3WAW",
    "3ZAYIN/3HETH/3YODH/3KAPH/3LAMEDH/3MEM/3NUN/3FINAL NUN/5WITH VERTICAL TAIL/3SAMEKH/3AYIN",
    "3ALTERNATE AYIN/3PE/3SADHE/3FINAL SADHE/5WITH VERTICAL TAIL/3RESH-AYIN-DALETH/3SHIN/3TAW",
    "3FINAL TAW/5WITH VERTICAL TAIL/2NUMBER ONE/3TWO/3THREE/3FOUR/3FIVE/3TEN/3TWENTY/3THIRTY",
    "3ONE HUNDRED/2FRACTION ONE HALF/2LIGATURE AYIN-DALETH/@10F30/0SOGDIAN LETTER ALEPH/2BETH",
    "2GIMEL/2HE/2WAW/2ZAYIN/2HETH/2YODH/2KAPH/2LAMEDH/2MEM/2NUN/2SAMEKH/2AYIN/2PE/2SADHE",
    "2RESH-AYIN/2SHIN/2TAW/2FETH/2LESH/1INDEPENDENT SHIN/1COMBINING DOT BELOW/2TWO DOTS BELOW",
    "2DOT ABOVE/2TWO DOTS ABOVE/2CURVE ABOVE/3BELOW/2HOOK ABOVE/3BELOW/2LONG HOOK BELOW",
    "2RESH BELOW/2STROKE BELOW/1NUMBER ONE/2TEN/2TWENTY/2ONE HUNDRED",
    "1PUNCTUATION TWO VERTICAL BARS/5WITH DOTS/2CIRCLE WITH DOT/2TWO CIRCLES WITH DOTS",
    "2HALF CIRCLE WITH DOT/@10F70/0OLD UYGHUR LETTER ALEPH/3BETH/3GIMEL-HETH/3WAW/3ZAYIN",
    "3FINAL HETH/3YODH/3KAPH/3LAMEDH/3MEM/3NUN/3SAMEKH/3PE/3SADHE/3RESH/3SHIN/3TAW/3LESH",
    "2COMBINING DOT ABOVE/4BELOW/3TWO DOTS ABOVE/5BELOW/2PUNCTUATION BAR/3TWO BARS/4DOTS",
    "3FOUR DOTS/@10FB0/0CHORASMIAN LETTER ALEPH/2SMALL ALEPH/2BETH/2GIMEL/2DALETH/2HE/2WAW",
    "2CURLED WAW/2ZAYIN/2HETH/2YODH/2KAPH/2LAMEDH/2MEM/2NUN/2SAMEKH/2AYIN/2PE/2RESH/2SHIN/2TAW",
    "1NUMBER ONE/2TWO/2THREE/2FOUR/2TEN/2TWENTY/2ONE HUNDRED/@10FE0/0ELYMAIC LETTER ALEPH/2BETH",
    "2GIMEL/2DALETH/2HE/2WAW/2ZAYIN/2HETH/2TETH/2YODH/2KAPH/2LAMEDH/2MEM/2NUN/2SAMEKH/2AYIN/2PE",
    "2SADHE/2QOPH/2RESH/2SHIN/2TAW/1LIGATURE ZAYIN-YODH/@11000/0BRAHMI SIGN CANDRABINDU/2ANUSVARA",
    "2VISARGA/2JIHVAMULIYA/2UPADHMANIYA/1LETTER A/2AA/2I/2II/2U/2UU/2VOCALIC R/3RR/3L/3LL/2E/2AI",
    "2O/2AU/2KA/2KHA/2GA/2GHA/2NGA/2CA/2CHA/2JA/2JHA/2NYA/2TTA/2TTHA/2DDA/2DDHA/2NNA/2TA/2THA/2DA",
    "2DHA/2NA/2PA/2PHA/2BA/2BHA/2MA/2YA/2RA/2LA/2VA/2SHA/2SSA/2SA/2HA/2LLA/2OLD TAMIL LLLA/4RRA",
    "4NNNA/1VOWEL SIGN AA/3BHATTIPROLU AA/3I/3II/3U/3UU/3VOCALIC R/4RR/4L/4LL/3E/3AI/3O/3AU",
    "1VIRAMA/1DANDA/1DOUBLE DANDA/1PUNCTUATION DOT/2DOUBLE DOT/2LINE/2CRESCENT BAR/2LOTUS",
    "@11052/1NUMBER ONE/2TWO/2THREE/2FOUR/2FIVE/2SIX/2SEVEN/2EIGHT/2NINE/2TEN/2TWENTY/2THIRTY",
    "2FORTY/2FIFTY/2SIXTY/2SEVENTY/2EIGHTY/2NINETY/2ONE HUNDRED/3THOUSAND/1DIGIT ZERO/2ONE/2TWO",
    "2THREE/2FOUR/2FIVE/2SIX/2SEVEN/2EIGHT/2NINE/1SIGN OLD TAMIL VIRAMA/1LETTER OLD TAMIL SHORT E",
    "5O/1VOWEL SIGN OLD TAMIL SHORT E/6O/1LETTER OLD TAMIL LLA/@1107F/1NUMBER JOINER",
    "0KAITHI SIGN CANDRABINDU/2ANUSVARA/2VISARGA/1LETTER A/2AA/2I/2II/2U/2UU/2E/2AI/2O/2AU/2KA",
    "2KHA/2GA/2GHA/2NGA/2CA/2CHA/2JA/2JHA/2NYA/2TTA/2TTHA/2DDA/2DDDHA/2DDHA/2RHA/2NNA/2TA/2THA",
    "2DA/2DHA/2NA/2PA/2PHA/2BA/2BHA/2MA/2YA/2RA/2LA/2VA/2SHA/2SSA/2SA/2HA/1VOWEL SIGN AA/3I/3II",
    "3U/3UU/3E/3AI/3O/3AU/1SIGN VIRAMA/2NUKTA/1ABBREVIATION SIGN/1ENUMERATION SIGN/1NUMBER SIGN",
    "1SECTION MARK/1DOUBLE SECTION MARK/1DANDA/1DOUBLE DANDA/1VOWEL SIGN VOCALIC R",
    "@110CD/1NUMBER SIGN ABOVE/@110D0/0SORA SOMPENG LETTER SAH/3TAH/3BAH/3CAH/3DAH/3GAH/3MAH",
    "3NGAH/3LAH/3NAH/3VAH/3PAH/3YAH/3RAH/3HAH/3KAH/3JAH/3NYAH/3AH/3EEH/3IH/3UH/3OH/3EH/3MAE",
    "@110F0/2DIGIT ZERO/3ONE/3TWO/3THREE/3FOUR/3FIVE/3SIX/3SEVEN/3EIGHT/3NINE",
    "@11100/0CHAKMA SIGN CANDRABINDU/2ANUSVARA/2VISARGA/1LETTER AA/2I/2U/2E/2KAA/2KHAA/2GAA/2GHAA",
    "2NGAA/2CAA/2CHAA/2JAA/2JHAA/2NYAA/2TTAA/2TTHAA/2DDAA/2DDHAA/2NNAA/2TAA/2THAA/2DAA/2DHAA/2NAA",
    "2PAA/2PHAA/2BAA/2BHAA/2MAA/2YYAA/2YAA/2RAA/2LAA/2WAA/2SAA/2HAA/1VOWEL SIGN A/3I/3II/3U/3UU",
    "3E/3AI/3O/3AU/3OI/1O MARK/1AU MARK/1VIRAMA/1MAAYYAA/@11136/1DIGIT ZERO/2ONE/2TWO/2THREE",
    "2FOUR/2FIVE/2SIX/2SEVEN/2EIGHT/2NINE/1SECTION MARK/1DANDA/1DOUBLE DANDA/1QUESTION MARK",
    "1LETTER LHAA/1VOWEL SIGN AA/3EI/1LETTER VAA/@11150/0MAHAJANI LETTER A/2I/2U/2E/2O/2KA/2KHA",
    "2GA/2GHA/2CA/2CHA/2JA/2JHA/2NYA/2TTA/2TTHA/2DDA/2DDHA/2NNA/2TA/2THA/2DA/2DHA/2NA/2PA/2PHA",
    "2BA/2BHA/2MA/2RA/2LA/2VA/2SA/2HA/2RRA/1SIGN NUKTA/1ABBREVIATION SIGN/1SECTION MARK",
    "1LIGATURE SHRI/@11180/0SHARADA SIGN CANDRABINDU/2ANUSVARA/2VISARGA/1LETTER A/2AA/2I/2II/2U",
    "2UU/2VOCALIC R/3RR/3L/3LL/2E/2AI/2O/2AU/2KA/2KHA/2GA/2GHA/2NGA/2CA/2CHA/2JA/2JHA/2NYA/2TTA",
    "2TTHA/2DDA/2DDHA/2NNA/2TA/2THA/2DA/2DHA/2NA/2PA/2PHA/2BA/2BHA/2MA/2YA/2RA/2LA/2LLA/2VA/2SHA",
    "2SSA/2SA/2HA/1VOWEL SIGN AA/3I/3II/3U/3UU/3VOCALIC R/4RR/4L/4LL/3E/3AI/3O/3AU/1SIGN VIRAMA",
    "2AVAGRAHA/2JIHVAMULIYA/2UPADHMANIYA/1OM/1DANDA/1DOUBLE DANDA/1ABBREVIATION SIGN/1SEPARATOR",
    "1SANDHI MARK/1SIGN NUKTA/1VOWEL MODIFIER MARK/1EXTRA SHORT VOWEL MARK/1SUTRA MARK",
    "1VOWEL SIGN PRISHTHAMATRA E/1SIGN INVERTED CANDRABINDU/1DIGIT ZERO/2ONE/2TWO/2THREE/2FOUR",
    "2FIVE/2SIX/2SEVEN/2EIGHT/2NINE/1EKAM/1SIGN SIDDHAM/1HEADSTROKE/1CONTINUATION SIGN",
    "1SECTION MARK-1/2MARK-2/@111E1/0SINHALA ARCHAIC DIGIT ONE/3TWO/3THREE/3FOUR/3FIVE/3SIX",
    "3SEVEN/3EIGHT/3NINE/2NUMBER TEN/3TWENTY/3THIRTY/3FORTY/3FIFTY/3SIXTY/3SEVENTY/3EIGHTY",
    "3NINETY/3ONE HUNDRED/4THOUSAND/@11200/0KHOJKI LETTER A/2AA/2I/2U/2E/2AI/2O/2AU/2KA/2KHA/2GA",
    "2GGA/2GHA/2NGA/2CA/2CHA/2JA/2JJA/@11213/2NYA/2TTA/2TTHA/2DDA/2DDHA/2NNA/2TA/2THA/2DA/2DDDA",
    "2DHA/2NA/2PA/2PHA/2BA/2BBA/2BHA/2MA/2YA/2RA/2LA/2VA/2SA/2HA/2LLA/1VOWEL SIGN AA/3I/3II/3U/3E",
    "3AI/3O/3AU/1SIGN ANUSVARA/2VIRAMA/2NUKTA/2SHADDA/1DANDA/1DOUBLE DANDA/1WORD SEPARATOR",
    "1SECTION MARK/1DOUBLE SECTION MARK/1ABBREVIATION SIGN/1SIGN SUKUN/@11280/0MULTANI LETTER A",
    "2I/2U/2E/2KA/2KHA/2GA/@11288/2GHA/@1128A/2CA/2CHA/2JA/2JJA/@1128F/2NYA/2TTA/2TTHA/2DDA/2DDDA",
    "2DDHA/2NNA/2TA/2THA/2DA/2DHA/2NA/2PA/2PHA/2BA/@1129F/2BHA/2MA/2YA/2RA/2LA/2VA/2SA/2HA/2RRA",
    "2RHA/1SECTION MARK/@112B0/0KHUDAWADI LETTER A/2AA/2I/2II/2U/2UU/2E/2AI/2O/2AU/2KA/2KHA/2GA",
    "2GGA/2GHA/2NGA/2CA/2CHA/2JA/2JJA/2JHA/2NYA/2TTA/2TTHA/2DDA/2DDDA/2RRA/2DDHA/2NNA/2TA/2THA",
    "2DA/2DHA/2NA/2PA/2PHA/2BA/2BBA/2BHA/2MA/2YA/2RA/2LA/2VA/2SHA/2SA/2HA/1SIGN ANUSVARA",
    "1VOWEL SIGN AA/3I/3II/3U/3UU/3E/3AI/3O/3AU/1SIGN NUKTA/2VIRAMA/@112F0/1DIGIT ZERO/2ONE/2TWO",
    "2THREE/2FOUR/2FIVE/2SIX/2SEVEN/2EIGHT/2NINE/@11300/0GRANTHA SIGN COMBINING ANUSVARA ABOVE",
    "2CANDRABINDU/2ANUSVARA/2VISARGA/@11305/1LETTER A/2AA/2I/2II/2U/2UU/2VOCALIC R/3L/@1130F/2EE",
    "2AI/@11313/2OO/2AU/2KA/2KHA/2GA/2GHA/2NGA/2CA/2CHA/2JA/2JHA/2NYA/2TTA/2TTHA/2DDA/2DDHA/2NNA",
    "2TA/2THA/2DA/2DHA/2NA/@1132A/2PA/2PHA/2BA/2BHA/2MA/2YA/2RA/@11332/2LA/2LLA/@11335/2VA/2SHA",
    "2SSA/2SA/2HA/@1133B/0COMBINING BINDU BELOW/0GRANTHA SIGN NUKTA/2AVAGRAHA/1VOWEL SIGN AA/3I",
    "3II/3U/3UU/3VOCALIC R/4RR/@11347/3EE/3AI/@1134B/3OO/3AU/1SIGN VIRAMA/@11350/1OM",
    "@11357/1AU LENGTH MARK/@1135D/1SIGN PLUTA/1LETTER VEDIC ANUSVARA/3DOUBLE ANUSVARA",
    "2VOCALIC RR/3LL/1VOWEL SIGN VOCALIC L/4LL/@11366/0COMBINING GRANTHA DIGIT ZERO/3ONE/3TWO",
    "3THREE/3FOUR/3FIVE/3SIX/@11370/2LETTER A/3KA/3NA/3VI/3PA/@11400/0NEWA LETTER A/2AA/2I/2II/2U",
    "2UU/2VOCALIC R/3RR/3L/3LL/2E/2AI/2O/2AU/2KA/2KHA/2GA/2GHA/2NGA/2NGHA/2CA/2CHA/2JA/2JHA/2NYA",
    "2NYHA/2TTA/2TTHA/2DDA/2DDHA/2NNA/2TA/2THA/2DA/2DHA/2NA/2NHA/2PA/2PHA/2BA/2BHA/2MA/2MHA/2YA",
    "2RA/2RHA/2LA/2LHA/2WA/2SHA/2SSA/2SA/2HA/1VOWEL SIGN AA/3I/3II/3U/3UU/3VOCALIC R/4RR/4L/4LL",
    "3E/3AI/3O/3AU/1SIGN VIRAMA/2CANDRABINDU/2ANUSVARA/2VISARGA/2NUKTA/2AVAGRAHA/2FINAL ANUSVARA",
    "1OM/1SIDDHI/1DANDA/1DOUBLE DANDA/1COMMA/1GAP FILLER/1ABBREVIATION SIGN/1DIGIT ZERO/2ONE/2TWO",
    "2THREE/2FOUR/2FIVE/2SIX/2SEVEN/2EIGHT/2NINE/1DOUBLE COMMA/1PLACEHOLDER MARK",
    "@1145D/1INSERTION SIGN/1SANDHI MARK/1LETTER VEDIC ANUSVARA/1SIGN JIHVAMULIYA/2UPADHMANIYA",
    "@11480/0TIRHUTA ANJI/1LETTER A/2AA/2I/2II/2U/2UU/2VOCALIC R/3RR/3L/3LL/2E/2AI/2O/2AU/2KA",
    "2KHA/2GA/2GHA/2NGA/2CA/2CHA/2JA/2JHA/2NYA/2TTA/2TTHA/2DDA/2DDHA/2NNA/2TA/2THA/2DA/2DHA/2NA",
    "2PA/2PHA/2BA/2BHA/2MA/2YA/2RA/2LA/2VA/2SHA/2SSA/2SA/2HA/1VOWEL SIGN AA/3I/3II/3U/3UU",
    "3VOCALIC R/4RR/4L/4LL/3E/3SHORT E/3AI/3O/3SHORT O/3AU/1SIGN CANDRABINDU/2ANUSVARA/2VISARGA",
    "2VIRAMA/2NUKTA/2AVAGRAHA/1GVANG/1ABBREVIATION SIGN/1OM/@114D0/1DIGIT ZERO/2ONE/2TWO/2THREE",
    "2FOUR/2FIVE/2SIX/2SEVEN/2EIGHT/2NINE/@11580/0SIDDHAM LETTER A/2AA/2I/2II/2U/2UU/2VOCALIC R",
    "3RR/3L/3LL/2E/2AI/2O/2AU/2KA/2KHA/2GA/2GHA/2NGA/2CA/2CHA/2JA/2JHA/2NYA/2TTA/2TTHA/2DDA/2DDHA",
    "2NNA/2TA/2THA/2DA/2DHA/2NA/2PA/2PHA/2BA/2BHA/2MA/2YA/2RA/2LA/2VA/2SHA/2SSA/2SA/2HA",
    "1VOWEL SIGN AA/3I/3II/3U/3UU/3VOCALIC R/4RR/@115B8/3E/3AI/3O/3AU/1SIGN CANDRABINDU/2ANUSVARA",
    "2VISARGA/2VIRAMA/2NUKTA/2SIDDHAM/1DANDA/1DOUBLE DANDA/1SEPARATOR DOT/2BAR/1REPETITION MARK-1",
    "2MARK-2/2MARK-3/1END OF TEXT MARK/1SECTION MARK WITH TRIDENT AND U-SHAPED ORNAMENTS",
    "6DOTTED CRESCENTS/4RAYS AND DOTTED CRESCENTS/7DOUBLE CRESCENTS/7TRIPLE CRESCENTS",
    "3DOUBLE RING/5WITH RAYS/3WITH DOUBLE CRESCENTS/4TRIPLE CRESCENTS/4QUADRUPLE CRESCENTS",
    "4SEPTUPLE CRESCENTS/4CIRCLES AND RAYS/6TWO ENCLOSURES/6FOUR ENCLOSURES",
    "1LETTER THREE-CIRCLE ALTERNATE I/2TWO-CIRCLE ALTERNATE I/4II/2ALTERNATE U",
    "1VOWEL SIGN ALTERNATE U/4UU/@11600/0MODI LETTER A/2AA/2I/2II/2U/2UU/2VOCALIC R/3RR/3L/3LL/2E",
    "2AI/2O/2AU/2KA/2KHA/2GA/2GHA/2NGA/2CA/2CHA/2JA/2JHA/2NYA/2TTA/2TTHA/2DDA/2DDHA/2NNA/2TA/2THA",
    "2DA/2DHA/2NA/2PA/2PHA/2BA/2BHA/2MA/2YA/2RA/2LA/2VA/2SHA/2SSA/2SA/2HA/2LLA/1VOWEL SIGN AA/3I",
    "3II/3U/3UU/3VOCALIC R/4RR/4L/4LL/3E/3AI/3O/3AU/1SIGN ANUSVARA/2VISARGA/2VIRAMA/2ARDHACANDRA",
    "1DANDA/1DOUBLE DANDA/1ABBREVIATION SIGN/1SIGN HUVA/@11650/1DIGIT ZERO/2ONE/2TWO/2THREE/2FOUR",
    "2FIVE/2SIX/2SEVEN/2EIGHT/2NINE/@11660/0MONGOLIAN BIRGA WITH ORNAMENT/1ROTATED BIRGA",
    "1DOUBLE BIRGA WITH ORNAMENT/1TRIPLE BIRGA WITH ORNAMENT/1BIRGA WITH DOUBLE ORNAMENT",
    "1ROTATED BIRGA WITH ORNAMENT/4DOUBLE ORNAMENT/1INVERTED BIRGA/3WITH DOUBLE ORNAMENT",
    "1SWIRL BIRGA/3WITH ORNAMENT/4DOUBLE ORNAMENT/1TURNED SWIRL BIRGA WITH DOUBLE ORNAMENT",
    "@11680/0TAKRI LETTER A/2AA/2I/2II/2U/2UU/2E/2AI/2O/2AU/2KA/2KHA/2GA/2GHA/2NGA/2CA/2CHA/2JA",
    "2JHA/2NYA/2TTA/2TTHA/2DDA/2DDHA/2NNA/2TA/2THA/2DA/2DHA/2NA/2PA/2PHA/2BA/2BHA/2MA/2YA/2RA/2LA",
    "2VA/2SHA/2SA/2HA/2RRA/1SIGN ANUSVARA/2VISARGA/1VOWEL SIGN AA/3I/3II/3U/3UU/3E/3AI/3O/3AU",
    "1SIGN VIRAMA/2NUKTA/1LETTER ARCHAIC KHA/1ABBREVIATION SIGN/@116C0/1DIGIT ZERO/2ONE/2TWO",
    "2THREE/2FOUR/2FIVE/2SIX/2SEVEN/2EIGHT/2NINE/@11700/0AHOM LETTER KA/2KHA/2NGA/2NA/2TA",
    "2ALTERNATE TA/2PA/2PHA/2BA/2MA/2JA/2CHA/2THA/2RA/2LA/2SA/2NYA/2HA/2A/2DA/2DHA/2GA",
    "2ALTERNATE GA/2GHA/2BHA/2JHA/2ALTERNATE BA/@1171D/1CONSONANT SIGN MEDIAL LA/4RA/4LIGATING RA",
    "1VOWEL SIGN A/3AA/3I/3II/3U/3UU/3E/3AW/3O/3AI/3AM/1SIGN KILLER/@11730/1DIGIT ZERO/2ONE/2TWO",
    "2THREE/2FOUR/2FIVE/2SIX/2SEVEN/2EIGHT/2NINE/1NUMBER TEN/2TWENTY/1SIGN SMALL SECTION/2SECTION",
    "2RULAI/1SYMBOL VI/1LETTER CA/2TTA/2TTHA/2DDA/2DDHA/2NNA/2LLA/@11800/0DOGRA LETTER A/2AA/2I",
    "2II/2U/2UU/2E/2AI/2O/2AU/2KA/2KHA/2GA/2GHA/2NGA/2CA/2CHA/2JA/2JHA/2NYA/2TTA/2TTHA/2DDA/2DDHA",
    "2NNA/2TA/2THA/2DA/2DHA/2NA/2PA/2PHA/2BA/2BHA/2MA/2YA/2RA/2LA/2VA/2SHA/2SSA/2SA/2HA/2RRA",
    "1VOWEL SIGN AA/3I/3II/3U/3UU/3VOCALIC R/4RR/3E/3AI/3O/3AU/1SIGN ANUSVARA/2VISARGA/2VIRAMA",
    "2NUKTA/1ABBREVIATION SIGN/@118A0/0WARANG CITI CAPITAL LETTER NGAA/4A/4WI/4YU/4YA/4YO/4II/4UU",
    "4E/4O/4ANG/4GA/4KO/4ENY/4YUJ/4UC/4ENN/4ODD/4TTE/4NUNG/4DA/4AT/4AM/4BU/4PU/4HIYO/4HOLO/4HORR",
    "4HAR/4SSUU/4SII/4VIYO/2SMALL LETTER NGAA/4A/4WI/4YU/4YA/4YO/4II/4UU/4E/4O/4ANG/4GA/4KO/4ENY",
    "4YUJ/4UC/4ENN/4ODD/4TTE/4NUNG/4DA/4AT/4AM/4BU/4PU/4HIYO/4HOLO/4HORR/4HAR/4SSUU/4SII/4VIYO",
    "2DIGIT ZERO/3ONE/3TWO/3THREE/3FOUR/3FIVE/3SIX/3SEVEN/3EIGHT/3NINE/2NUMBER TEN/3TWENTY",
    "3THIRTY/3FORTY/3FIFTY/3SIXTY/3SEVENTY/3EIGHTY/3NINETY/@118FF/2OM/0DIVES AKURU LETTER A/3AA",
    "3I/3II/3U/3UU/3E/@11909/3O/@1190C/3KA/3KHA/3GA/3GHA/3NGA/3CA/3CHA/3JA/@11915/3NYA/3TTA",
    "@11918/3DDA/3DDHA/3NNA/3TA/3THA/3DA/3DHA/3NA/3PA/3PHA/3BA/3BHA/3MA/3YA/3YYA/3RA/3LA/3VA/3SHA",
    "3SSA/3SA/3HA/3LLA/3ZA/2VOWEL SIGN AA/4I/4II/4U/4UU/4E/@11937/4AI/4O/@1193B/2SIGN ANUSVARA",
    "3CANDRABINDU/3HALANTA/2VIRAMA/2PREFIXED NASAL SIGN/2MEDIAL YA/2INITIAL RA/2MEDIAL RA",
    "2SIGN NUKTA/2DOUBLE DANDA/2GAP FILLER/2END OF TEXT MARK/@11950/2DIGIT ZERO/3ONE/3TWO/3THREE",
    "3FOUR/3FIVE/3SIX/3SEVEN/3EIGHT/3NINE/@119A0/0NANDINAGARI LETTER A/2AA/2I/2II/2U/2UU",
    "2VOCALIC R/3RR/@119AA/2E/2AI/2O/2AU/2KA/2KHA/2GA/2GHA/2NGA/2CA/2CHA/2JA/2JHA/2NYA/2TTA/2TTHA",
    "2DDA/2DDHA/2NNA/2TA/2THA/2DA/2DHA/2NA/2PA/2PHA/2BA/2BHA/2MA/2YA/2RA/2LA/2VA/2SHA/2SSA/2SA",
    "2HA/2LLA/2RRA/1VOWEL SIGN AA/3I/3II/3U/3UU/3VOCALIC R/4RR/@119DA/3E/3AI/3O/3AU",
    "1SIGN ANUSVARA/2VISARGA/2VIRAMA/2AVAGRAHA/2SIDDHAM/1HEADSTROKE/1VOWEL SIGN PRISHTHAMATRA E",
    "@11A00/0ZANABAZAR SQUARE LETTER A/2VOWEL SIGN I/4UE/4U/4E/4OE/4O/4AI/4AU/4REVERSED I",
    "3LENGTH MARK/2LETTER KA/3KHA/3GA/3GHA/3NGA/3CA/3CHA/3JA/3NYA/3TTA/3TTHA/3DDA/3DDHA/3NNA/3TA",
    "3THA/3DA/3DHA/3NA/3PA/3PHA/3BA/3BHA/3MA/3TSA/3TSHA/3DZA/3DZHA/3ZHA/3ZA/3-A/3YA/3RA/3LA/3VA",
    "3SHA/3SSA/3SA/3HA/3KSSA/2FINAL CONSONANT MARK/2SIGN VIRAMA/3CANDRABINDU/4WITH ORNAMENT",
    "3CANDRA WITH ORNAMENT/3ANUSVARA/3VISARGA/2CLUSTER-INITIAL LETTER RA/2CLUSTER-FINAL LETTER YA",
    "4RA/4LA/4VA/2INITIAL HEAD MARK/2CLOSING HEAD MARK/2MARK TSHEG/3SHAD/3DOUBLE SHAD/3LONG TSHEG",
    "2INITIAL DOUBLE-LINED HEAD MARK/2CLOSING DOUBLE-LINED HEAD MARK/2SUBJOINER",
    "@11A50/0SOYOMBO LETTER A/1VOWEL SIGN I/3UE/3U/3E/3O/3OE/3AI/3AU/3VOCALIC R/4L/2LENGTH MARK",
    "1LETTER KA/2KHA/2GA/2GHA/2NGA/2CA/2CHA/2JA/2JHA/2NYA/2TTA/2TTHA/2DDA/2DDHA/2NNA/2TA/2THA/2DA",
    "2DHA/2NA/2PA/2PHA/2BA/2BHA/2MA/2TSA/2TSHA/2DZA/2ZHA/2ZA/2-A/2YA/2RA/2LA/2VA/2SHA/2SSA/2SA",
    "2HA/2KSSA/1SIGN JIHVAMULIYA/2UPADHMANIYA/1CLUSTER-INITIAL LETTER RA/3LA/3SHA/3SA",
    "1FINAL CONSONANT SIGN G/4K/4NG/4D/4N/4B/4M/4R/4L/4SH/4S/4-A/1SIGN ANUSVARA/2VISARGA",
    "1GEMINATION MARK/1SUBJOINER/1MARK TSHEG/2SHAD/2DOUBLE SHAD/2PLUTA",
    "1HEAD MARK WITH MOON AND SUN AND TRIPLE FLAME/8FLAME/7/1TERMINAL MARK-1/2MARK-2",
    "@11AB0/0CANADIAN SYLLABICS NATTILIK HI/3HII/3HO/3HOO/3HA/3HAA/3SHRI/3SHRII/3SHRO/3SHROO",
    "3SHRA/3SHRAA/2SPE/2SPI/2SPO/2SPA/0PAU CIN HAU LETTER PA/4KA/4LA/4MA/4DA/4ZA/4VA/4NGA/4HA/4GA",
    "4KHA/4SA/4BA/4CA/4TA/4THA/4NA/4PHA/4RA/4FA/4CHA/4A/4E/4I/4O/4U/4UA/4IA/4FINAL P/5K/5T/5M/5N",
    "5L/5W/5NG/5Y/3RISING TONE LONG/5/3SANDHI GLOTTAL STOP/3RISING TONE LONG FINAL/5FINAL",
    "3SANDHI GLOTTAL STOP FINAL/4TONE LONG/5/5LONG FINAL/5FINAL/3MID-LEVEL TONE",
    "3GLOTTAL STOP VARIANT/3MID-LEVEL TONE LONG FINAL/5FINAL/3LOW-FALLING TONE LONG/5",
    "3GLOTTAL STOP/3LOW-FALLING TONE LONG FINAL/5FINAL/3GLOTTAL STOP FINAL",
    "@11C00/0BHAIKSUKI LETTER A/2AA/2I/2II/2U/2UU/2VOCALIC R/3RR/3L/@11C0A/2E/2AI/2O/2AU/2KA/2KHA",
    "2GA/2GHA/2NGA/2CA/2CHA/2JA/2JHA/2NYA/2TTA/2TTHA/2DDA/2DDHA/2NNA/2TA/2THA/2DA/2DHA/2NA/2PA",
    "2PHA/2BA/2BHA/2MA/2YA/2RA/2LA/2VA/2SHA/2SSA/2SA/2HA/1VOWEL SIGN AA/3I/3II/3U/3UU/3VOCALIC R",
    "4RR/4L/@11C38/3E/3AI/3O/3AU/1SIGN CANDRABINDU/2ANUSVARA/2VISARGA/2VIRAMA/2AVAGRAHA/1DANDA",
    "1DOUBLE DANDA/1WORD SEPARATOR/1GAP FILLER-1/2FILLER-2/@11C50/1DIGIT ZERO/2ONE/2TWO/2THREE",
    "2FOUR/2FIVE/2SIX/2SEVEN/2EIGHT/2NINE/1NUMBER ONE/2TWO/2THREE/2FOUR/2FIVE/2SIX/2SEVEN/2EIGHT",
    "2NINE/2TEN/2TWENTY/2THIRTY/2FORTY/2FIFTY/2SIXTY/2SEVENTY/2EIGHTY/2NINETY/1HUNDREDS UNIT MARK",
    "@11C70/0MARCHEN HEAD MARK/1MARK SHAD/1LETTER KA/2KHA/2GA/2NGA/2CA/2CHA/2JA/2NYA/2TA/2THA/2DA",
    "2NA/2PA/2PHA/2BA/2MA/2TSA/2TSHA/2DZA/2WA/2ZHA/2ZA/2-A/2YA/2RA/2LA/2SHA/2SA/2HA/2A",
    "@11C92/1SUBJOINED LETTER KA/3KHA/3GA/3NGA/3CA/3CHA/3JA/3NYA/3TA/3THA/3DA/3NA/3PA/3PHA/3BA",
    "3MA/3TSA/3TSHA/3DZA/3WA/3ZHA/3ZA/@11CA9/3YA/3RA/3LA/3SHA/3SA/3HA/3A/1VOWEL SIGN AA/3I/3U/3E",
    "3O/1SIGN ANUSVARA/2CANDRABINDU/@11D00/0MASARAM GONDI LETTER A/3AA/3I/3II/3U/3UU/3E",
    "@11D08/3AI/3O/@11D0B/3AU/3KA/3KHA/3GA/3GHA/3NGA/3CA/3CHA/3JA/3JHA/3NYA/3TTA/3TTHA/3DDA/3DDHA",
    "3NNA/3TA/3THA/3DA/3DHA/3NA/3PA/3PHA/3BA/3BHA/3MA/3YA/3RA/3LA/3VA/3SHA/3SSA/3SA/3HA/3LLA",
    "3KSSA/3JNYA/3TRA/2VOWEL SIGN AA/4I/4II/4U/4UU/4VOCALIC R/@11D3A/4E/@11D3C/4AI/4O/@11D3F/4AU",
    "2SIGN ANUSVARA/3VISARGA/3NUKTA/3CANDRA/3HALANTA/2VIRAMA/2REPHA/2RA-KARA/@11D50/2DIGIT ZERO",
    "3ONE/3TWO/3THREE/3FOUR/3FIVE/3SIX/3SEVEN/3EIGHT/3NINE/@11D60/0GUNJALA GONDI LETTER A/3AA/3I",
    "3II/3U/3UU/@11D67/3EE/3AI/@11D6A/3OO/3AU/3YA/3VA/3BA/3BHA/3MA/3KA/3KHA/3TA/3THA/3LA/3GA/3GHA",
    "3DA/3DHA/3NA/3CA/3CHA/3TTA/3TTHA/3LLA/3JA/3JHA/3DDA/3DDHA/3NGA/3PA/3PHA/3HA/3RA/3SA",
    "2VOWEL SIGN AA/4I/4II/4U/4UU/@11D90/4EE/4AI/@11D93/4OO/4AU/2SIGN ANUSVARA/3VISARGA/2VIRAMA",
    "2OM/@11DA0/2DIGIT ZERO/3ONE/3TWO/3THREE/3FOUR/3FIVE/3SIX/3SEVEN/3EIGHT/3NINE",
    "@11EE0/0MAKASAR LETTER KA/2GA/2NGA/2PA/2BA/2MA/2TA/2DA/2NA/2CA/2JA/2NYA/2YA/2RA/2LA/2VA/2SA",
    "2A/1ANGKA/1VOWEL SIGN I/3U/3E/3O/1PASSIMBANG/1END OF SECTION/@11FB0/0LISU LETTER YHA",
    "@11FC0/0TAMIL FRACTION ONE THREE-HUNDRED-AND-TWENTIETH/3ONE-HUNDRED-AND-SIXTIETH/3EIGHTIETH",
    "3SIXTY-FOURTH/3FORTIETH/3THIRTY-SECOND/2THREE EIGHTIETHS/3SIXTY-FOURTHS/2ONE TWENTIETH",
    "3SIXTEENTH-1/3SIXTEENTH-2/3TENTH/3EIGHTH/2THREE TWENTIETHS/3SIXTEENTHS/2ONE FIFTH/3QUARTER",
    "3HALF-1/3HALF-2/2THREE QUARTERS/2DOWNSCALING FACTOR KIIZH/1SIGN NEL/2CEVITU/2AAZHAAKKU",
    "2UZHAKKU/2MUUVUZHAKKU/2KURUNI/2PATHAKKU/2MUKKURUNI/2KAACU/2PANAM/2PON/2VARAAKAN/2PAARAM",
    "2KUZHI/2VELI/1WET CULTIVATION SIGN/1DRY CULTIVATION SIGN/1LAND SIGN/1SALT PAN SIGN",
    "1TRADITIONAL CREDIT SIGN/2NUMBER SIGN/1CURRENT SIGN/1AND ODD SIGN/1SPENT SIGN/1TOTAL SIGN",
    "1IN POSSESSION SIGN/1STARTING FROM SIGN/1SIGN MUTHALIYA/2VAKAIYARAA",
    "@11FFF/1PUNCTUATION END OF TEXT/0CUNEIFORM SIGN A/3TIMES A/4BAD/4GAN2 TENU/4HA/4IGI",
    "4LAGAR GUNU/4MUSH/4SAG/2A2/2AB/3TIMES ASH2/4DUN3 GUNU/4GAL/4GAN2 TENU/4HA/4IGI GUNU/4IMIN",
    "4LAGAB/4SHESH/4U PLUS U PLUS U/3GUNU/2AB2/3TIMES BALAG/4GAN2 TENU/4ME PLUS EN/4SHA3/4TAK4",
    "2AD/2AK/3TIMES ERIN2/4SHITA PLUS GISH/2AL/3TIMES AL/4DIM2/4GISH/4HA/4KAD3/4KI/4SHE/4USH",
    "2ALAN/2ALEPH/2AMAR/3TIMES SHE/2AN/3OVER AN/3THREE TIMES/3PLUS NAGA OPPOSING AN PLUS NAGA",
    "5SQUARED/2ANSHE/2APIN/2ARAD/3TIMES KUR/2ARKAB/2ASAL2/2ASH/3ZIDA TENU/3KABA TENU",
    "3OVER ASH TUG2 OVER TUG2 TUG2 OVER TUG2 PAP/5OVER ASH/7CROSSING ASH OVER ASH OVER ASH/2ASH2",
    "2ASHGAB/2BA/2BAD/2BAG3/2BAHAR2/2BAL/3OVER BAL/2BALAG/2BAR/2BARA2/2BI/3TIMES A/4GAR/4IGI GUNU",
    "2BU/3OVER BU AB/5UN/3CROSSING BU/2BULUG/3OVER BULUG/2BUR/2BUR2/2DA/2DAG",
    "3KISIM5 TIMES A PLUS MASH/5AMAR/5BALAG/5BI/5GA/6PLUS MASH/5GI/5GIR2/5GUD/5HA/5IR/6PLUS LU",
    "5KAK/5LA/5LU/6PLUS MASH2/5LUM/5NE/5PAP PLUS PAP/5SI/5TAK4/5U2 PLUS GIR2/5USH/2DAM/2DAR",
    "2DARA3/2DARA4/2DI/2DIB/2DIM/3TIMES SHE/2DIM2/2DIN/3KASKAL U GUNU DISH/2DISH/2DU/3OVER DU",
    "3GUNU/3SHESHIG/2DUB/3TIMES ESH2/2DUB2/2DUG/2DUGUD/2DUH/2DUN/2DUN3/3GUNU/4GUNU/2DUN4/2DUR2/2E",
    "3TIMES PAP/3OVER E NUN OVER NUN/2E2/3TIMES A PLUS HA PLUS DA/4GAR/4MI/4SAL/4SHE/4U/2EDIN",
    "2EGIR/2EL/2EN/3TIMES GAN2/5TENU/4ME/3CROSSING EN/3OPPOSING EN/3SQUARED/2EREN/2ERIN2/2ESH2",
    "2EZEN/3TIMES A/5PLUS LAL/7TIMES LAL/4AN/4BAD/4DUN3 GUNU/6GUNU/4HA/5GUNU/4IGI GUNU/4KASKAL",
    "5SQUARED/4KU3/4LA/4LAL TIMES LAL/4LI/4LU/4U2/4UD/2GA/3GUNU/2GA2/3TIMES A PLUS DA PLUS HA/6HA",
    "6IGI/4AB2 TENU PLUS TAB/4AN/4ASH/4ASH2 PLUS GAL/4BAD/4BAR PLUS RA/4BUR/5PLUS RA/4DA/4DI",
    "4DIM TIMES SHE/4DUB/4EL/5PLUS LA/4EN/5TIMES GAN2 TENU/4GAN2 TENU/4GAR/4GI/4GI4/5PLUS A",
    "4GIR2 PLUS SU/4HA PLUS LU PLUS ESH2/4HAL/5PLUS LA/4HI PLUS LI/4HUB2/4IGI GUNU",
    "4ISH PLUS HU PLUS ASH/4KAK/4KASKAL/4KID/5PLUS LAL/4KU3 PLUS AN/4LA/4ME PLUS EN/4MI/4NUN",
    "5OVER NUN/4PA/4SAL/4SAR/4SHE/5PLUS TUR/4SHID/4SUM/4TAK4/4U/4UD/5PLUS DU/3OVER GA2/2GABA",
    "3CROSSING GABA/2GAD/3OVER GAD GAR OVER GAR/2GAL/3GAD OVER GAD GAR OVER GAR/2GALAM/2GAM/2GAN",
    "2GAN2/3TENU/3OVER GAN2/3CROSSING GAN2/2GAR/2GAR3/2GASHAN/2GESHTIN/3TIMES KUR/2GI/3TIMES E/4U",
    "3CROSSING GI/2GI4/3OVER GI4/3CROSSING GI4/2GIDIM/2GIR2/3GUNU/2GIR3/3TIMES A PLUS IGI",
    "4GAN2 TENU/4IGI/4LU PLUS IGI/4PA/2GISAL/2GISH/3CROSSING GISH/3TIMES BAD/4TAK4/3TENU/2GU",
    "3CROSSING GU/2GU2/3TIMES KAK/5TIMES IGI GUNU/4NUN/4SAL PLUS TUG2/3GUNU/2GUD",
    "3TIMES A PLUS KUR/4KUR/3OVER GUD LUGAL/2GUL/2GUM/3TIMES SHE/2GUR/2GUR7/2GURUN/2GURUSH/2HA",
    "3TENU/3GUNU/2HAL/2HI/3TIMES ASH/4ASH2/4BAD/4DISH/4GAD/4KIN/4NUN/4SHE/4U/2HU/2HUB2/3TIMES AN",
    "4HAL/4KASKAL/4LISH/4UD/2HUL2/2I/3A/2IB/2IDIM/3OVER IDIM BUR/5SQUARED/2IG/2IGI/3DIB/3RI",
    "3OVER IGI SHIR OVER SHIR UD OVER UD/3GUNU/2IL/3TIMES GAN2 TENU/2IL2/2IM/3TIMES TAK4",
    "3CROSSING IM/3OPPOSING IM/3SQUARED/2IMIN/2IN/2IR/2ISH/2KA/3TIMES A/4AD/5PLUS KU3/4ASH2/4BAD",
    "4BALAG/4BAR/4BI/4ERIN2/4ESH2/4GA/4GAL/4GAN2 TENU/4GAR/5PLUS SHA3 PLUS A/4GI/4GIR2",
    "4GISH PLUS SAR/5CROSSING GISH/4GU/4GUR7/4IGI/4IM/4KAK/4KI/4KID/4LI/4LU/4ME/5PLUS DU/6GI/6TE",
    "4MI/5PLUS NUNUZ/4NE/4NUN/4PI/4RU/4SA/4SAR/4SHA/4SHE/4SHID/4SHU/4SIG/4SUHUR/4TAR/4U/4U2/4UD",
    "4UMUM TIMES PA/4USH/4ZI/2KA2/3CROSSING KA2/2KAB/2KAD2/2KAD3/2KAD4/2KAD5/3OVER KAD5/2KAK",
    "3TIMES IGI GUNU/2KAL/3TIMES BAD/3CROSSING KAL/2KAM2/2KAM4/2KASKAL",
    "3LAGAB TIMES U OVER LAGAB TIMES U/3OVER KASKAL LAGAB TIMES U OVER LAGAB TIMES U/2KESH2/2KI",
    "3TIMES BAD/4U/4UD/2KID/2KIN/2KISAL/2KISH/2KISIM5/3OVER KISIM5/2KU",
    "3OVER HI TIMES ASH2 KU OVER HI TIMES ASH2/2KU3/2KU4/3VARIANT FORM/2KU7/2KUL/3GUNU/2KUN/2KUR",
    "3OPPOSING KUR/2KUSHU2/2KWU318/2LA/2LAGAB/3TIMES A/5PLUS DA PLUS HA/6GAR/6LAL/4AL/4AN",
    "4ASH ZIDA TENU/4BAD/4BI/4DAR/4EN/4GA/4GAR/4GUD/5PLUS GUD/4HA/4HAL/4HI TIMES NUN/4IGI GUNU",
    "4IM/5PLUS HA/6LU/4KI/4KIN/4KU3/4KUL/5PLUS HI PLUS A/4LAGAB/4LISH/4LU/4LUL/4ME/5PLUS EN/4MUSH",
    "4NE/4SHE PLUS SUM/4SHITA PLUS GISH PLUS ERIN2/7TENU/4SHU2/5PLUS SHU2/4SUM/4TAG/4TAK4",
    "4TE PLUS A PLUS SU PLUS NA/4U/5PLUS A/6U PLUS U/4U2 PLUS ASH/4UD/4USH/3SQUARED/2LAGAR",
    "3TIMES SHE/5PLUS SUM/3GUNU/4OVER LAGAR GUNU SHE/2LAHSHU/2LAL/3TIMES LAL/2LAM/3TIMES KUR",
    "5PLUS RU/2LI/2LIL/2LIMMU2/2LISH/2LU/3TIMES BAD/2LU2/3TIMES AL/4BAD/4ESH2/5TENU/4GAN2 TENU",
    "4HI TIMES BAD/4IM/4KAD2/4KAD3/5PLUS ASH/4KI/4LA PLUS ASH/4LAGAB/4ME PLUS EN/4NE/4NU",
    "4SI PLUS ASH/4SIK2 PLUS BU/4TUG2/3TENU/3CROSSING LU2/3OPPOSING LU2/3SQUARED/3SHESHIG/2LU3",
    "2LUGAL/3OVER LUGAL/3OPPOSING LUGAL/3SHESHIG/2LUH/2LUL/2LUM/3OVER LUM/5GAR OVER GAR/2MA",
    "3TIMES TAK4/3GUNU/2MA2/2MAH/2MAR/2MASH/2MASH2/2ME/2MES/2MI/2MIN/2MU/3OVER MU/2MUG/3GUNU",
    "2MUNSUB/2MURGU2/2MUSH/3TIMES A/4KUR/4ZA/3OVER MUSH/5TIMES A PLUS NA/3CROSSING MUSH/2MUSH3",
    "3TIMES A/5PLUS DI/4DI/3GUNU/2NA/2NA2/2NAGA/3INVERTED/3TIMES SHU TENU/3OPPOSING NAGA/2NAGAR",
    "2NAM NUTILLU/3/2NAM2/2NE/3TIMES A/4UD/3SHESHIG/2NI/3TIMES E/2NI2/2NIM/3TIMES GAN2 TENU",
    "4GAR PLUS GAN2 TENU/2NINDA2/3TIMES AN/4ASH/5PLUS ASH/4GUD/4ME PLUS GAN2 TENU/4NE/4NUN/4SHE",
    "5PLUS A AN/6ASH/7PLUS ASH/4U2 PLUS ASH/4USH/2NISAG/2NU/2NU11/2NUN/3LAGAR TIMES GAR/5MASH",
    "5SAL/6OVER NUN LAGAR TIMES SAL/5USH/3TENU/3OVER NUN/3CROSSING NUN/5LAGAR OVER LAGAR/2NUNUZ",
    "3AB2 TIMES ASHGAB/5BI/5DUG/5GUD/5IGI GUNU/5KAD3/5LA/5NE/5SILA3/5U2/3KISIM5 TIMES BI/6U/2PA",
    "2PAD/2PAN/2PAP/2PESH2/2PI/3TIMES A/4AB/4BI/4BU/4E/4I/4IB/4U/4U2/3CROSSING PI/2PIRIG",
    "3TIMES KAL/4UD/4ZA/3OPPOSING PIRIG/2RA/2RAB/2RI/2RU/2SA/2SAG NUTILLU/3/3TIMES A/4DU/4DUB/4HA",
    "4KAK/4KUR/4LUM/4MI/4NUN/4SAL/4SHID/4TAB/4U2/4UB/4UM/4UR/4USH/3OVER SAG/3GUNU/2SAL",
    "3LAGAB TIMES ASH2/2SANGA2/2SAR/2SHA/2SHA3/3TIMES A/4BAD/4GISH/4NE/4SHU2/4TUR/4U/5PLUS A",
    "2SHA6/2SHAB6/2SHAR2/2SHE/3HU/3OVER SHE GAD OVER GAD GAR OVER GAR/5TAB OVER TAB GAR OVER GAR",
    "2SHEG9/2SHEN/2SHESH/2SHESH2/2SHESHLAM/2SHID/3TIMES A/4IM/2SHIM/3TIMES A/4BAL/4BULUG/4DIN",
    "4GAR/4IGI/5GUNU/4KUSHU2/4LUL/4MUG/4SAL/2SHINIG/2SHIR/3TENU/3OVER SHIR BUR OVER BUR/2SHITA",
    "2SHU/3OVER INVERTED SHU/2SHU2/2SHUBUR/2SI/3GUNU/2SIG/2SIG4/3OVER SIG4 SHU2/2SIK2/2SILA3/2SU",
    "3OVER SU/2SUD/2SUD2/2SUHUR/2SUM/2SUMASH/2SUR/2SUR9/2TA/3ASTERISK/3TIMES HI/4MI/3GUNU/2TAB",
    "3OVER TAB NI OVER NI DISH OVER DISH/3SQUARED/2TAG/3TIMES BI/4GUD/4SHE/4SHU/4TUG2/4UD/2TAK4",
    "2TAR/2TE/3GUNU/2TI/3TENU/2TIL/2TIR/3TIMES TAK4/3OVER TIR/5GAD OVER GAD GAR OVER GAR/2TU",
    "2TUG2/2TUK/2TUM/2TUR/3OVER TUR ZA OVER ZA/2U/3GUD/3U U/3OVER U PA OVER PA GAR OVER GAR",
    "5SUR OVER SUR/5U REVERSED OVER U REVERSED/2U2/2UB/2UD/3KUSHU2/3TIMES BAD/4MI",
    "4U PLUS U PLUS U/9GUNU/3GUNU/3SHESHIG/4TIMES BAD/2UDUG/2UM/3TIMES LAGAB/4ME PLUS DA/4SHA3/4U",
    "2UMBIN/2UMUM/3TIMES KASKAL/4PA/2UN/3GUNU/2UR/3CROSSING UR/3SHESHIG/2UR2/3TIMES A PLUS HA/6NA",
    "4AL/4HA/4NUN/4U2/5PLUS ASH/6BI/2UR4/2URI/2URI3/2URU/3TIMES A/4ASHGAB/4BAR/4DUN/4GA/4GAL",
    "4GAN2 TENU/4GAR/4GU/4HA/4IGI/4IM/4ISH/4KI/4LUM/4MIN/4PA/4SHE/4SIG4/4TU/4U PLUS GUD/4UD",
    "4URUDA/2URUDA/3TIMES U/2USH/3TIMES A/4KU/4KUR/4TAK4/2USHX/2USH2/2USHUMX/2UTUKI/2UZ3",
    "3TIMES KASKAL/2UZU/2ZA/3TENU/3SQUARED TIMES KUR/2ZAG/2ZAMX/2ZE2/2ZI/3OVER ZI/2ZI3/2ZIB",
    "3KABA TENU/2ZIG/2ZIZ2/2ZU/2ZU5/3TIMES A/2ZUBUR/2ZUM/2KAP ELAMITE/2AB TIMES NUN/2AB2 TIMES A",
    "2AMAR TIMES KUG/2DAG KISIM5 TIMES U2 PLUS MASH/2DAG3/2DISH PLUS SHU/2DUB TIMES SHE",
    "2EZEN TIMES GUD/4SHE/2GA2 TIMES AN PLUS KAK PLUS A/4ASH2/2GE22/2GIG/2HUSH/2KA TIMES ANSHE",
    "4ASH3/4GISH/4GUD/4HI TIMES ASH2/4LUM/4PA/4SHUL/4TU/4UR2/2LAGAB TIMES GI",
    "2LU2 SHESHIG TIMES BAD/3TIMES ESH2 PLUS LAL/4SHU/2MESH/2MUSH3 TIMES ZA/2NA4/2NIN/2NIN9",
    "2NINDA2 TIMES BAL/4GI/2NU11 ROTATED NINETY DEGREES/2PESH2 ASTERISK/2PIR2/2SAG TIMES IGI GUNU",
    "2TI2/2UM TIMES ME/2U U/@12400/1NUMERIC SIGN TWO ASH/3THREE ASH/3FOUR ASH/3FIVE ASH/3SIX ASH",
    "3SEVEN ASH/3EIGHT ASH/3NINE ASH/3THREE DISH/3FOUR DISH/3FIVE DISH/3SIX DISH/3SEVEN DISH",
    "3EIGHT DISH/3NINE DISH/3FOUR U/3FIVE U/3SIX U/3SEVEN U/3EIGHT U/3NINE U/3ONE GESH2",
    "3TWO GESH2/3THREE GESH2/3FOUR GESH2/3FIVE GESH2/3SIX GESH2/3SEVEN GESH2/3EIGHT GESH2",
    "3NINE GESH2/3ONE GESHU/3TWO GESHU/3THREE GESHU/3FOUR GESHU/3FIVE GESHU/3TWO SHAR2",
    "3THREE SHAR2/5VARIANT FORM/3FOUR SHAR2/3FIVE SHAR2/3SIX SHAR2/3SEVEN SHAR2/3EIGHT SHAR2",
    "3NINE SHAR2/3ONE SHARU/3TWO SHARU/3THREE SHARU/5VARIANT FORM/3FOUR SHARU/3FIVE SHARU",
    "3SHAR2 TIMES GAL PLUS DISH/7MIN/3ONE BURU/3TWO BURU/3THREE BURU/5VARIANT FORM/3FOUR BURU",
    "3FIVE BURU/3THREE VARIANT FORM ESH16/6ESH21/3FOUR VARIANT FORM LIMMU/6LIMMU4/6LIMMU A/7B",
    "3SIX VARIANT FORM ASH9/3SEVEN VARIANT FORM IMIN3/6IMIN A/7B/3EIGHT VARIANT FORM USSU/6USSU3",
    "3NINE VARIANT FORM ILIMMU/6ILIMMU3/6ILIMMU4/6ILIMMU A/3TWO ASH TENU/3THREE ASH TENU",
    "3FOUR ASH TENU/3FIVE ASH TENU/3SIX ASH TENU/3ONE BAN2/3TWO BAN2/3THREE BAN2/3FOUR BAN2",
    "5VARIANT FORM/3FIVE BAN2/5VARIANT FORM/3NIGIDAMIN/3NIGIDAESH/3ONE ESHE3/3TWO ESHE3",
    "3ONE THIRD DISH/3TWO THIRDS DISH/3FIVE SIXTHS DISH/3ONE THIRD VARIANT FORM A",
    "3TWO THIRDS VARIANT FORM A/3ONE EIGHTH ASH/4QUARTER ASH/3OLD ASSYRIAN ONE SIXTH/6QUARTER",
    "3ONE QUARTER GUR/4HALF GUR/3ELAMITE ONE THIRD/4TWO THIRDS/4FORTY/4FIFTY/3FOUR U VARIANT FORM",
    "3FIVE U VARIANT FORM/3SIX U VARIANT FORM/3SEVEN U VARIANT FORM/3EIGHT U VARIANT FORM",
    "3NINE U VARIANT FORM/@12470/1PUNCTUATION SIGN OLD ASSYRIAN WORD DIVIDER/3VERTICAL COLON",
    "3DIAGONAL COLON/4TRICOLON/4QUADCOLON/@12480/1SIGN AB TIMES NUN TENU/4SHU2/2AD TIMES ESH2",
    "2BAD TIMES DISH TENU/2BAHAR2 TIMES AB2/4NI/4ZA/2BU OVER BU TIMES NA2/2DA TIMES TAK4",
    "2DAG TIMES KUR/2DIM TIMES IGI/4U U U/2DIM2 TIMES UD/2DUG TIMES ANSHE/4ASH/5AT LEFT/4DIN/4DUN",
    "4ERIN2/4GA/4GI/4GIR2 GUNU/4GISH/4HA/4HI/4IGI GUNU/4KASKAL/4KUR/4KUSHU2/5PLUS KASKAL/4LAK-020",
    "4LAM/5TIMES KUR/4LUH PLUS GISH/4MASH/4MES/4MI/4NI/4PI/4SHE/4SI GUNU/2E2 TIMES KUR/4PAP",
    "2ERIN2 X/2ESH2 CROSSING ESH2/2EZEN SHESHIG TIMES ASH/5HI/5IGI GUNU/5LA/5LAL/5ME/5MES/5SU",
    "3TIMES SU/2GA2 TIMES BAHAR2/4DIM GUNU/4DUG TIMES IGI GUNU/6KASKAL/4EREN/4GA/4GAR PLUS DI/6NE",
    "4HA PLUS A/4KUSHU2 PLUS KASKAL/4LAM/5TIMES KUR/4LUH/4MUSH/4NE/5PLUS E2/6GI/4SHIM/4ZIZ2",
    "2GABA ROTATED NINETY DEGREES/2GESHTIN TIMES U/2GISH TIMES GISH CROSSING GISH",
    "2GU2 TIMES IGI GUNU/2GUD PLUS GISH TIMES TAK4/2HA TENU GUNU/2HI TIMES ASH OVER HI TIMES ASH",
    "2KA TIMES BU/4KA/4U U U/4UR/2LAGAB TIMES ZU OVER ZU/2LAK-003/2LAK-021/2LAK-025/2LAK-030",
    "2LAK-050/2LAK-051/2LAK-062/2LAK-079 OVER LAK-079 GUNU/2LAK-080/2LAK-081 OVER LAK-081",
    "2LAK-092/2LAK-130/2LAK-142/2LAK-210/2LAK-219/2LAK-220/2LAK-225/2LAK-228/2LAK-238/2LAK-265",
    "2LAK-266/2LAK-343/2LAK-347/2LAK-348/2LAK-383/2LAK-384/2LAK-390/2LAK-441/2LAK-449/3TIMES GU",
    "4IGI/4PAP PLUS LU3/6PAP PLUS LU3/4U2 PLUS BA/2LAK-450/2LAK-457/2LAK-470/2LAK-483/2LAK-490",
    "2LAK-492/2LAK-493/2LAK-495/2LAK-550/2LAK-608/2LAK-617/3TIMES ASH/4BAD/4DUN3 GUNU GUNU/4KU3",
    "4LA/4TAR/4TE/4U2/4UD/4URUDA/2LAK-636/2LAK-648/3TIMES DUB/4GA/4IGI/5GUNU/4NI",
    "4PAP PLUS PAP PLUS LU3/4SHESH PLUS KI/4UD/4URUDA/2LAK-724/2LAK-749/2LU2 GUNU TIMES ASH",
    "3TIMES DISH/4HAL/4PAP/5PLUS PAP PLUS LU3/4TAK4/2MI PLUS ZA7/2MUSH OVER MUSH TIMES GA/6KAK",
    "2NINDA2 TIMES DIM GUNU/4GISH/4GUL/4HI/4KESH2/4LAK-050/4MASH/4PAP PLUS PAP/4U/5PLUS U/4URUDA",
    "2SAG GUNU TIMES HA/3TIMES EN/4SHE AT LEFT/4TAK4/2SHA6 TENU/2SHE OVER SHE/3PLUS HUB2/4NAM2",
    "4SAR/2SHU2 PLUS DUG TIMES NI/4E2 TIMES AN/2SI TIMES TAK4/2TAK4 PLUS SAG/2TUM TIMES GAN2 TENU",
    "4THREE DISH/2UR2 INVERTED/3TIMES UD/2URU TIMES DARA3/4LAK-668/4LU3/2ZA7/2ZU OVER ZU PLUS SAR",
    "2ZU5 TIMES THREE DISH TENU/@12F90/0CYPRO-MINOAN SIGN CM001/2CM002/2CM004/2CM005/2CM006",
    "2CM007/2CM008/2CM009/2CM010/2CM011/2CM012/2CM012B/2CM013/2CM015/2CM017/2CM019/2CM021/2CM023",
    "2CM024/2CM025/2CM026/2CM027/2CM028/2CM029/2CM030/2CM033/2CM034/2CM035/2CM036/2CM037/2CM038",
    "2CM039/2CM040/2CM041/2CM044/2CM046/2CM047/2CM049/2CM050/2CM051/2CM052/2CM053/2CM054/2CM055",
    "2CM056/2CM058/2CM059/2CM060/2CM061/2CM062/2CM063/2CM064/2CM066/2CM067/2CM068/2CM069/2CM070",
    "2CM071/2CM072/2CM073/2CM074/2CM075/2CM075B/2CM076/2CM078/2CM079/2CM080/2CM081/2CM082/2CM083",
    "2CM084/2CM085/2CM086/2CM087/2CM088/2CM089/2CM090/2CM091/2CM092/2CM094/2CM095/2CM096/2CM097",
    "2CM098/2CM099/2CM100/2CM101/2CM102/2CM103/2CM104/2CM105/2CM107/2CM108/2CM109/2CM110/2CM112",
    "2CM114/2CM301/2CM302/@13000/0EGYPTIAN HIEROGLYPH A001/2A002/2A003/2A004/2A005/2A005A/2A006",
    "2A006A/2A006B/2A007/2A008/2A009/2A010/2A011/2A012/2A013/2A014/2A014A/2A015/2A016/2A017",
    "2A017A/2A018/2A019/2A020/2A021/2A022/2A023/2A024/2A025/2A026/2A027/2A028/2A029/2A030/2A031",
    "2A032/2A032A/2A033/2A034/2A035/2A036/2A037/2A038/2A039/2A040/2A040A/2A041/2A042/2A042A/2A043",
    "2A043A/2A044/2A045/2A045A/2A046/2A047/2A048/2A049/2A050/2A051/2A052/2A053/2A054/2A055/2A056",
    "2A057/2A058/2A059/2A060/2A061/2A062/2A063/2A064/2A065/2A066/2A067/2A068/2A069/2A070/2B001",
    "2B002/2B003/2B004/2B005/2B005A/2B006/2B007/2B008/2B009/2C001/2C002/2C002A/2C002B/2C002C",
    "2C003/2C004/2C005/2C006/2C007/2C008/2C009/2C010/2C010A/2C011/2C012/2C013/2C014/2C015/2C016",
    "2C017/2C018/2C019/2C020/2C021/2C022/2C023/2C024/2D001/2D002/2D003/2D004/2D005/2D006/2D007",
    "2D008/2D008A/2D009/2D010/2D011/2D012/2D013/2D014/2D015/2D016/2D017/2D018/2D019/2D020/2D021",
    "2D022/2D023/2D024/2D025/2D026/2D027/2D027A/2D028/2D029/2D030/2D031/2D031A/2D032/2D033/2D034",
    "2D034A/2D035/2D036/2D037/2D038/2D039/2D040/2D041/2D042/2D043/2D044/2D045/2D046/2D046A/2D047",
    "2D048/2D048A/2D049/2D050/2D050A/2D050B/2D050C/2D050D/2D050E/2D050F/2D050G/2D050H/2D050I",
    "2D051/2D052/2D052A/2D053/2D054/2D054A/2D055/2D056/2D057/2D058/2D059/2D060/2D061/2D062/2D063",
    "2D064/2D065/2D066/2D067/2D067A/2D067B/2D067C/2D067D/2D067E/2D067F/2D067G/2D067H/2E001/2E002",
    "2E003/2E004/2E005/2E006/2E007/2E008/2E008A/2E009/2E009A/2E010/2E011/2E012/2E013/2E014/2E015",
    "2E016/2E016A/2E017/2E017A/2E018/2E019/2E020/2E020A/2E021/2E022/2E023/2E024/2E025/2E026/2E027",
    "2E028/2E028A/2E029/2E030/2E031/2E032/2E033/2E034/2E034A/2E036/2E037/2E038/2F001/2F001A/2F002",
    "2F003/2F004/2F005/2F006/2F007/2F008/2F009/2F010/2F011/2F012/2F013/2F013A/2F014/2F015/2F016",
    "2F017/2F018/2F019/2F020/2F021/2F021A/2F022/2F023/2F024/2F025/2F026/2F027/2F028/2F029/2F030",
    "2F031/2F031A/2F032/2F033/2F034/2F035/2F036/2F037/2F037A/2F038/2F038A/2F039/2F040/2F041/2F042",
    "2F043/2F044/2F045/2F045A/2F046/2F046A/2F047/2F047A/2F048/2F049/2F050/2F051/2F051A/2F051B",
    "2F051C/2F052/2F053/2G001/2G002/2G003/2G004/2G005/2G006/2G006A/2G007/2G007A/2G007B/2G008",
    "2G009/2G010/2G011/2G011A/2G012/2G013/2G014/2G015/2G016/2G017/2G018/2G019/2G020/2G020A/2G021",
    "2G022/2G023/2G024/2G025/2G026/2G026A/2G027/2G028/2G029/2G030/2G031/2G032/2G033/2G034/2G035",
    "2G036/2G036A/2G037/2G037A/2G038/2G039/2G040/2G041/2G042/2G043/2G043A/2G044/2G045/2G045A",
    "2G046/2G047/2G048/2G049/2G050/2G051/2G052/2G053/2G054/2H001/2H002/2H003/2H004/2H005/2H006",
    "2H006A/2H007/2H008/2I001/2I002/2I003/2I004/2I005/2I005A/2I006/2I007/2I008/2I009/2I009A/2I010",
    "2I010A/2I011/2I011A/2I012/2I013/2I014/2I015/2K001/2K002/2K003/2K004/2K005/2K006/2K007/2K008",
    "2L001/2L002/2L002A/2L003/2L004/2L005/2L006/2L006A/2L007/2L008/2M001/2M001A/2M001B/2M002",
    "2M003/2M003A/2M004/2M005/2M006/2M007/2M008/2M009/2M010/2M010A/2M011/2M012/2M012A/2M012B",
    "2M012C/2M012D/2M012E/2M012F/2M012G/2M012H/2M013/2M014/2M015/2M015A/2M016/2M016A/2M017/2M017A",
    "2M018/2M019/2M020/2M021/2M022/2M022A/2M023/2M024/2M024A/2M025/2M026/2M027/2M028/2M028A/2M029",
    "2M030/2M031/2M031A/2M032/2M033/2M033A/2M033B/2M034/2M035/2M036/2M037/2M038/2M039/2M040",
    "2M040A/2M041/2M042/2M043/2M044/2N001/2N002/2N003/2N004/2N005/2N006/2N007/2N008/2N009/2N010",
    "2N011/2N012/2N013/2N014/2N015/2N016/2N017/2N018/2N018A/2N018B/2N019/2N020/2N021/2N022/2N023",
    "2N024/2N025/2N025A/2N026/2N027/2N028/2N029/2N030/2N031/2N032/2N033/2N033A/2N034/2N034A/2N035",
    "2N035A/2N036/2N037/2N037A/2N038/2N039/2N040/2N041/2N042/2NL001/2NL002/2NL003/2NL004/2NL005",
    "2NL005A/2NL006/2NL007/2NL008/2NL009/2NL010/2NL011/2NL012/2NL013/2NL014/2NL015/2NL016/2NL017",
    "2NL017A/2NL018/2NL019/2NL020/2NU001/2NU002/2NU003/2NU004/2NU005/2NU006/2NU007/2NU008/2NU009",
    "2NU010/2NU010A/2NU011/2NU011A/2NU012/2NU013/2NU014/2NU015/2NU016/2NU017/2NU018/2NU018A",
    "2NU019/2NU020/2NU021/2NU022/2NU022A/2O001/2O001A/2O002/2O003/2O004/2O005/2O005A/2O006/2O006A",
    "2O006B/2O006C/2O006D/2O006E/2O006F/2O007/2O008/2O009/2O010/2O010A/2O010B/2O010C/2O011/2O012",
    "2O013/2O014/2O015/2O016/2O017/2O018/2O019/2O019A/2O020/2O020A/2O021/2O022/2O023/2O024/2O024A",
    "2O025/2O025A/2O026/2O027/2O028/2O029/2O029A/2O030/2O030A/2O031/2O032/2O033/2O033A/2O034",
    "2O035/2O036/2O036A/2O036B/2O036C/2O036D/2O037/2O038/2O039/2O040/2O041/2O042/2O043/2O044",
    "2O045/2O046/2O047/2O048/2O049/2O050/2O050A/2O050B/2O051/2P001/2P001A/2P002/2P003/2P003A",
    "2P004/2P005/2P006/2P007/2P008/2P009/2P010/2P011/2Q001/2Q002/2Q003/2Q004/2Q005/2Q006/2Q007",
    "2R001/2R002/2R002A/2R003/2R003A/2R003B/2R004/2R005/2R006/2R007/2R008/2R009/2R010/2R010A",
    "2R011/2R012/2R013/2R014/2R015/2R016/2R016A/2R017/2R018/2R019/2R020/2R021/2R022/2R023/2R024",
    "2R025/2R026/2R027/2R028/2R029/2S001/2S002/2S002A/2S003/2S004/2S005/2S006/2S006A/2S007/2S008",
    "2S009/2S010/2S011/2S012/2S013/2S014/2S014A/2S014B/2S015/2S016/2S017/2S017A/2S018/2S019/2S020",
    "2S021/2S022/2S023/2S024/2S025/2S026/2S026A/2S026B/2S027/2S028/2S029/2S030/2S031/2S032/2S033",
    "2S034/2S035/2S035A/2S036/2S037/2S038/2S039/2S040/2S041/2S042/2S043/2S044/2S045/2S046/2T001",
    "2T002/2T003/2T003A/2T004/2T005/2T006/2T007/2T007A/2T008/2T008A/2T009/2T009A/2T010/2T011",
    "2T011A/2T012/2T013/2T014/2T015/2T016/2T016A/2T017/2T018/2T019/2T020/2T021/2T022/2T023/2T024",
    "2T025/2T026/2T027/2T028/2T029/2T030/2T031/2T032/2T032A/2T033/2T033A/2T034/2T035/2T036/2U001",
    "2U002/2U003/2U004/2U005/2U006/2U006A/2U006B/2U007/2U008/2U009/2U010/2U011/2U012/2U013/2U014",
    "2U015/2U016/2U017/2U018/2U019/2U020/2U021/2U022/2U023/2U023A/2U024/2U025/2U026/2U027/2U028",
    "2U029/2U029A/2U030/2U031/2U032/2U032A/2U033/2U034/2U035/2U036/2U037/2U038/2U039/2U040/2U041",
    "2U042/2V001/2V001A/2V001B/2V001C/2V001D/2V001E/2V001F/2V001G/2V001H/2V001I/2V002/2V002A",
    "2V003/2V004/2V005/2V006/2V007/2V007A/2V007B/2V008/2V009/2V010/2V011/2V011A/2V011B/2V011C",
    "2V012/2V012A/2V012B/2V013/2V014/2V015/2V016/2V017/2V018/2V019/2V020/2V020A/2V020B/2V020C",
    "2V020D/2V020E/2V020F/2V020G/2V020H/2V020I/2V020J/2V020K/2V020L/2V021/2V022/2V023/2V023A",
    "2V024/2V025/2V026/2V027/2V028/2V028A/2V029/2V029A/2V030/2V030A/2V031/2V031A/2V032/2V033",
    "2V033A/2V034/2V035/2V036/2V037/2V037A/2V038/2V039/2V040/2V040A/2W001/2W002/2W003/2W003A",
    "2W004/2W005/2W006/2W007/2W008/2W009/2W009A/2W010/2W010A/2W011/2W012/2W013/2W014/2W014A/2W015",
    "2W016/2W017/2W017A/2W018/2W018A/2W019/2W020/2W021/2W022/2W023/2W024/2W024A/2W025/2X001/2X002",
    "2X003/2X004/2X004A/2X004B/2X005/2X006/2X006A/2X007/2X008/2X008A/2Y001/2Y001A/2Y002/2Y003",
    "2Y004/2Y005/2Y006/2Y007/2Y008/2Z001/2Z002/2Z002A/2Z002B/2Z002C/2Z002D/2Z003/2Z003A/2Z003B",
    "2Z004/2Z004A/2Z005/2Z005A/2Z006/2Z007/2Z008/2Z009/2Z010/2Z011/2Z012/2Z013/2Z014/2Z015/2Z015A",
    "2Z015B/2Z015C/2Z015D/2Z015E/2Z015F/2Z015G/2Z015H/2Z015I/2Z016/2Z016A/2Z016B/2Z016C/2Z016D",
    "2Z016E/2Z016F/2Z016G/2Z016H/2AA001/2AA002/2AA003/2AA004/2AA005/2AA006/2AA007/2AA007A/2AA007B",
    "2AA008/2AA009/2AA010/2AA011/2AA012/2AA013/2AA014/2AA015/2AA016/2AA017/2AA018/2AA019/2AA020",
    "2AA021/2AA022/2AA023/2AA024/2AA025/2AA026/2AA027/2AA028/2AA029/2AA030/2AA031/2AA032",
    "@13430/2VERTICAL JOINER/2HORIZONTAL JOINER/2INSERT AT TOP START/4BOTTOM START/4TOP END",
    "4BOTTOM END/2OVERLAY MIDDLE/2BEGIN SEGMENT/2END SEGMENT/@14400/0ANATOLIAN HIEROGLYPH A001",
    "2A002/2A003/2A004/2A005/2A006/2A007/2A008/2A009/2A010/2A010A/2A011/2A012/2A013/2A014/2A015",
    "2A016/2A017/2A018/2A019/2A020/2A021/2A022/2A023/2A024/2A025/2A026/2A026A/2A027/2A028/2A029",
    "2A030/2A031/2A032/2A033/2A034/2A035/2A036/2A037/2A038/2A039/2A039A/2A040/2A041/2A041A/2A042",
    "2A043/2A044/2A045/2A045A/2A046/2A046A/2A046B/2A047/2A048/2A049/2A050/2A051/2A052/2A053/2A054",
    "2A055/2A056/2A057/2A058/2A059/2A060/2A061/2A062/2A063/2A064/2A065/2A066/2A066A/2A066B/2A066C",
    "2A067/2A068/2A069/2A070/2A071/2A072/2A073/2A074/2A075/2A076/2A077/2A078/2A079/2A080/2A081",
    "2A082/2A083/2A084/2A085/2A086/2A087/2A088/2A089/2A090/2A091/2A092/2A093/2A094/2A095/2A096",
    "2A097/2A097A/2A098/2A098A/2A099/2A100/2A100A/2A101/2A101A/2A102/2A102A/2A103/2A104/2A104A",
    "2A104B/2A104C/2A105/2A105A/2A105B/2A106/2A107/2A107A/2A107B/2A107C/2A108/2A109/2A110/2A110A",
    "2A110B/2A111/2A112/2A113/2A114/2A115/2A115A/2A116/2A117/2A118/2A119/2A120/2A121/2A122/2A123",
    "2A124/2A125/2A125A/2A126/2A127/2A128/2A129/2A130/2A131/2A132/2A133/2A134/2A135/2A135A/2A136",
    "2A137/2A138/2A139/2A140/2A141/2A142/2A143/2A144/2A145/2A146/2A147/2A148/2A149/2A150/2A151",
    "2A152/2A153/2A154/2A155/2A156/2A157/2A158/2A159/2A160/2A161/2A162/2A163/2A164/2A165/2A166",
    "2A167/2A168/2A169/2A170/2A171/2A172/2A173/2A174/2A175/2A176/2A177/2A178/2A179/2A180/2A181",
    "2A182/2A183/2A184/2A185/2A186/2A187/2A188/2A189/2A190/2A191/2A192/2A193/2A194/2A195/2A196",
    "2A197/2A198/2A199/2A200/2A201/2A202/2A202A/2A202B/2A203/2A204/2A205/2A206/2A207/2A207A/2A208",
    "2A209/2A209A/2A210/2A211/2A212/2A213/2A214/2A215/2A215A/2A216/2A216A/2A217/2A218/2A219/2A220",
    "2A221/2A222/2A223/2A224/2A225/2A226/2A227/2A227A/2A228/2A229/2A230/2A231/2A232/2A233/2A234",
    "2A235/2A236/2A237/2A238/2A239/2A240/2A241/2A242/2A243/2A244/2A245/2A246/2A247/2A248/2A249",
    "2A250/2A251/2A252/2A253/2A254/2A255/2A256/2A257/2A258/2A259/2A260/2A261/2A262/2A263/2A264",
    "2A265/2A266/2A267/2A267A/2A268/2A269/2A270/2A271/2A272/2A273/2A274/2A275/2A276/2A277/2A278",
    "2A279/2A280/2A281/2A282/2A283/2A284/2A285/2A286/2A287/2A288/2A289/2A289A/2A290/2A291/2A292",
    "2A293/2A294/2A294A/2A295/2A296/2A297/2A298/2A299/2A299A/2A300/2A301/2A302/2A303/2A304/2A305",
    "2A306/2A307/2A308/2A309/2A309A/2A310/2A311/2A312/2A313/2A314/2A315/2A316/2A317/2A318/2A319",
    "2A320/2A321/2A322/2A323/2A324/2A325/2A326/2A327/2A328/2A329/2A329A/2A330/2A331/2A332A/2A332B",
    "2A332C/2A333/2A334/2A335/2A336/2A336A/2A336B/2A336C/2A337/2A338/2A339/2A340/2A341/2A342",
    "2A343/2A344/2A345/2A346/2A347/2A348/2A349/2A350/2A351/2A352/2A353/2A354/2A355/2A356/2A357",
    "2A358/2A359/2A359A/2A360/2A361/2A362/2A363/2A364/2A364A/2A365/2A366/2A367/2A368/2A368A/2A369",
    "2A370/2A371/2A371A/2A372/2A373/2A374/2A375/2A376/2A377/2A378/2A379/2A380/2A381/2A381A/2A382",
    "2A383 RA OR RI/2A383A/2A384/2A385/2A386/2A386A/2A387/2A388/2A389/2A390/2A391/2A392",
    "2A393 EIGHT/2A394/2A395/2A396/2A397/2A398/2A399/2A400/2A401/2A402/2A403/2A404/2A405/2A406",
    "2A407/2A408/2A409/2A410 BEGIN LOGOGRAM MARK/2A410A END LOGOGRAM MARK/2A411/2A412/2A413/2A414",
    "2A415/2A416/2A417/2A418/2A419/2A420/2A421/2A422/2A423/2A424/2A425/2A426/2A427/2A428/2A429",
    "2A430/2A431/2A432/2A433/2A434/2A435/2A436/2A437/2A438/2A439/2A440/2A441/2A442/2A443/2A444",
    "2A445/2A446/2A447/2A448/2A449/2A450/2A450A/2A451/2A452/2A453/2A454/2A455/2A456/2A457/2A457A",
    "2A458/2A459/2A460/2A461/2A462/2A463/2A464/2A465/2A466/2A467/2A468/2A469/2A470/2A471/2A472",
    "2A473/2A474/2A475/2A476/2A477/2A478/2A479/2A480/2A481/2A482/2A483/2A484/2A485/2A486/2A487",
    "2A488/2A489/2A490/2A491/2A492/2A493/2A494/2A495/2A496/2A497/2A501/2A502/2A503/2A504/2A505",
    "2A506/2A507/2A508/2A509/2A510/2A511/2A512/2A513/2A514/2A515/2A516/2A517/2A518/2A519/2A520",
    "2A521/2A522/2A523/2A524/2A525/2A526/2A527/2A528/2A529/2A530",
    "@16800/0BAMUM LETTER PHASE-A NGKUE MFON/3GBIEE FON/3PON MFON PIPAEMGBIEE/5PIPAEMBA/3NAA MFON",
    "3SHUENSHUET/3TITA MFON/3NZA MFON/3SHINDA PA NJI/3PON PA NJI PIPAEMGBIEE/6PIPAEMBA",
    "3MAEMBGBIEE/3TU MAEMBA/3NGANGU/3MAEMVEUX/3MANSUAE/3MVEUAENGAM/3SEUNYAM/3NTOQPEN/3KEUKEUTNDA",
    "3NKINDI/3SUU/3NGKUENZEUM/3LAPAQ/3LET KUT/3NTAP MFAA/3MAEKEUP/3PASHAE/3GHEUAERAE/3PAMSHAE",
    "3MON NGGEUAET/3NZUN MEUT/3U YUQ NAE/3GHEUAEGHEUAE/3NTAP NTAA/3SISA/3MGBASA/3MEUNJOMNDEUQ",
    "3MOOMPUQ/3KAFA/3PA LEERAEWA/3NDA LEERAEWA/3PET/3MAEMKPEN/3NIKA/3PUP/3TUAEP/3LUAEP/3SONJAM",
    "3TEUTEUWEN/3MAENYI/3KET/3NDAANGGEUAET/3KUOQ/3MOOMEUT/3SHUM/3LOMMAE/3FIRI/3ROM/3KPOQ/3SOQ",
    "3MAP PIEET/3SHIRAE/3NTAP/3SHOQ NSHUT YUM/3NYIT MONGKEUAEQ/3PAARAE/3NKAARAE/3UNKNOWN/3NGGEN",
    "3MAESI/3NJAM/3MBANYI/3NYET/3TEUAEN/3SOT/3PAAM/3NSHIEE/3MAEM/3NYI/3KAQ/3NSHA/3VEE/3LU/3NEN",
    "3NAQ/3MBAQ/2PHASE-B NSHUET/3TU MAEMGBIEE/3SIEE/3SET TU/3LOM NTEUM/3MBA MAELEE/3KIEEM/3YEURAE",
    "3MBAARAE/3KAM/3PEESHI/3YAFU LEERAEWA/3LAM NSHUT NYAM/3NTIEE SHEUOQ/3NDU NJAA/3GHEUGHEUAEM",
    "3PIT/3TU NSIEE/3SHET NJAQ/3SHEUAEQTU/3MFON TEUAEQ/3MBIT MBAAKET/3NYI NTEUM/3KEUPUQ/3GHEUGHEN",
    "3KEUYEUX/3LAANAE/3PARUM/3VEUM/3NGKINDI MVOP/3NGGEU MBU/3WUAET/3SAKEUAE/3TAAM/3MEUQ/3NGGUOQ",
    "4LARGE/3MFIYAQ/3SUE/3MBEURI/3MONTIEEN/3NYAEMAE/3PUNGAAM/3MEUT NGGEET/3FEUX/3MBUOQ/3FEE",
    "3KEUAEM/3MA NJEUAENA/4NJUQA/3LET/3NGGAAM/3NSEN/3MA/3KIQ/3NGOM/2PHASE-C NGKUE MAEMBA/3NZA",
    "3YUM/3WANGKUOQ/3NGGEN/3NDEUAEREE/3NGKAQ/3GHARAE/3MBEEKEET/3GBAYI/3NYIR MKPARAQ MEUN",
    "3NTU MBIT/3MBEUM/3PIRIEEN/3NDOMBU/3MBAA CABBAGE-TREE/3KEUSHEUAEP/3GHAP/3KEUKAQ/3YU MUOMAE",
    "3NZEUM/3MBUE/3NSEUAEN/3MBIT/3YEUQ/3KPARAQ/3KAA/3SEUX/3NDIDA/3TAASHAE/3NJUEQ/3TITA YUE/3SUAET",
    "3NGGUAEN NYAM/3VEUX/3NANSANAQ/3MA KEUAERI/3NTAA/3NGGUON/3LAP/3MBIRIEEN/3MGBASAQ/3NTEUNGBA",
    "3TEUTEUX/3NGGUM/3FUE/3NDEUT/3NSA/3NSHAQ/3BUNG/3VEUAEPEN/3MBERAE/3RU/3NJAEM/3LAM/3TITUAEP",
    "3NSUOT NGOM/3NJEEEE/3KET/3NGGU/3MAESI/3MBUAEM/3LU/3KUT/3NJAM/3NGOM/3WUP/3NGGUEET/3NSOM/3NTEN",
    "3KUOP NKAARAE/3NSUN/3NDAM/3MA NSIEE/3YAA/3NDAP/3SHUEQ/3SETFON/3MBI/3MAEMBA/3MBANYI/3KEUSEUX",
    "3MBEUX/3KEUM/3MBAA PICKET/3YUWOQ/3NJEUX/3MIEE/3MUAE/3SHIQ/3KEN LAW/4FATIGUE/3NGAQ/3NAQ/3LIQ",
    "3PIN/3PEN/3TET/2PHASE-D MBUO/3WAP/3NJI/3MFON/3NJIEE/3LIEE/3NJEUT/3NSHEE/3NGGAAMAE/3NYAM",
    "3WUAEN/3NGKUN/3SHEE/3NGKAP/3KEUAETMEUN/3TEUT/3SHEUAE/3NJAP/3SUE/3KET/3YAEMMAE/3KUOM/3SAP",
    "3MFEUT/3NDEUX/3MALEERI/3MEUT/3SEUAEQ/3YEN/3NJEUAEM/3KEUOT MBUAE/3NGKEURI/3TU/3GHAA/3NGKYEE",
    "3FEUFEUAET/3NDEE/3MGBOFUM/3LEUAEP/3NDON/3MONI/3MGBEUN/3PUUT/3MGBIEE/3MFO/3LUM/3NSIEEP/3MBAA",
    "3KWAET/3NYET/3TEUAEN/3SOT/3YUWOQ/3KEUM/3RAEM/3TEEEE/3NGKEUAEQ/3MFEUAE/3NSIEET/3KEUP/3PIP",
    "3PEUTAE/3NYUE/3LET/3NGGAAM/3MFIEE/3NGGWAEN/3YUOM/3PAP/3YUOP/3NDAM/3NTEUM/3SUAE/3KUN/3NGGEUX",
    "3NGKIEE/3TUOT/3MEUN/3KUQ/3NSUM/3TEUN/3MAENJET/3NGGAP/3LEUM/3NGGUOM/3NSHUT/3NJUEQ/3GHEUAE/3KU",
    "3REN OLD/3TAE/3TOQ/3NYI/3RII/3LEEEE/3MEEEE/3M/3SUU/3MU/3SHII/3SHEUX/3KYEE/3NU/3SHU/3NTEE",
    "3PEE/3NI/3SHOQ/3PUQ/3MVOP/3LOQ/3REN MUCH/3TI/3NTUU/3MBAA SEVEN/3SAQ/3FAA/2PHASE-E NDAP/3TOON",
    "3MBEUM/3LAP/3VOM/3LOON/3PAA/3SOM/3RAQ/3NSHUOP/3NDUN/3PUAE/3TAM/3NGKA/3KPEUX/3WUO/3SEE",
    "3NGGEUAET/3PAAM/3TOO/3KUOP/3LOM/3NSHIEE/3NGOP/3MAEM/3NGKEUX/3NGOQ/3NSHUE/3RIMGBA/3NJEUX",
    "3PEEM/3SAA/3NGGURAE/3MGBA/3GHEUX/3NGKEUAEM/3NJAEMLI/3MAP/3LOOT/3NGGEEEE/3NDIQ/3TAEN NTEUM",
    "3SET/3PUM/3NDAA SOFTNESS/3NGGUAESHAE NYAM/3YIEE/3GHEUN/3TUAE/3YEUAE/3PO/3TUMAE/3KEUAE/3SUAEN",
    "3TEUAEQ/3VEUAE/3WEUX/3LAAM/3PU/3TAAQ/3GHAAMAE/3NGEUREUT/3SHEUAEQ/3MGBEN/3MBEE/3NZAQ/3NKOM",
    "3GBET/3TUM/3KUET/3YAP/3NYI CLEAVER/3YIT/3MFEUQ/3NDIAQ/3PIEEQ/3YUEQ/3LEUAEM/3FUE/3GBEUX",
    "3NGKUP/3KET/3MAE/3NGKAAMI/3GHET/3FA/3NTUM/3PEUT/3YEUM/3NGGEUAE/3NYI BETWEEN/3NZUQ/3POON",
    "3MIEE/3FUET/3NAE/3MUAE/3GHEUAE/3FU I/3MVI/3PUAQ/3NGKUM/3KUT/3PIET/3NTAP/3YEUAET/3NGGUP",
    "3PA PEOPLE/3FU CALL/3FOM/3NJEE/3A/3TOQ/3O/3I/3LAQ/3PA PLURAL/3TAA/3TAQ/3NDAA MY HOUSE/3SHIQ",
    "3YEUX/3NGUAE/3YUAEN/3YOQ SWIMMING/4COVER/3YUQ/3YUN/3KEUX/3PEUX/3NJEE EPOCH/3PUE/3WUE/3FEE",
    "3VEE/3LU/3MI/3REUX/3RAE/3NGUAET/3NGA/3SHO/3SHOQ/3FU REMEDY/3NA/3PI/3LOQ/3KO/3MEN/3MA/3MAQ",
    "3TEU/3KI/3MON/3TEN/3FAQ/3GHOM/2PHASE-F KA/3U/3KU/3EE/3REE/3TAE/3NYI/3LA/3RII/3RIEE/3MEEEE",
    "3TAA/3NDAA/3NJAEM/3M/3SUU/3SHII/3SI/3SEUX/3KYEE/3KET/3NUAE/3NU/3NJUAE/3YOQ/3SHU/3YA/3NSHA",
    "3PEUX/3NTEE/3WUE/3PEE/3RU/3NI/3REUX/3KEN/3NGKWAEN/3NGGA/3SHO/3PUAE/3FOM/3WA/3LI/3LOQ/3KO",
    "3MBEN/3REN/3MA/3MO/3MBAA/3TET/3KPA/3SAMBA/3VUEQ/@16A40/0MRO LETTER TA/2NGI/2YO/2MIM/2BA/2DA",
    "2A/2PHI/2KHAI/2HAO/2DAI/2CHU/2KEAAE/2OL/2MAEM/2NIN/2PA/2OO/2O/2RO/2SHI/2THEA/2EA/2WA/2E/2KO",
    "2LAN/2LA/2HAI/2RI/2TEK/@16A60/1DIGIT ZERO/2ONE/2TWO/2THREE/2FOUR/2FIVE/2SIX/2SEVEN/2EIGHT",
    "2NINE/@16A6E/1DANDA/1DOUBLE DANDA/0TANGSA LETTER OZ/2OC/2OQ/2OX/2AZ/2AC/2AQ/2AX/2VZ/2VC/2VQ",
    "2VX/2EZ/2EC/2EQ/2EX/2IZ/2IC/2IQ/2IX/2UZ/2UC/2UQ/2UX/2AWZ/2AWC/2AWQ/2AWX/2UIZ/2UIC/2UIQ/2UIX",
    "2FINAL NG/2LONG UEX/2SHORT UEZ/3AWX/2UEC/2UEZ/2UEQ/2UEX/2UIUZ/2UIUC/2UIUQ/2UIUX/2MZ/2MC/2MQ",
    "2MX/2KA/2KHA/2GA/2NGA/2SA/2YA/2WA/2PA/2NYA/2PHA/2BA/2MA/2NA/2HA/2LA/2HTA/2TA/2DA/2RA/2NHA",
    "2SHA/2CA/2TSA/2GHA/2HTTA/2THA/2XA/2FA/2DHA/2CHA/2ZA/@16AC0/1DIGIT ZERO/2ONE/2TWO/2THREE",
    "2FOUR/2FIVE/2SIX/2SEVEN/2EIGHT/2NINE/@16AD0/0BASSA VAH LETTER ENNI/3KA/3SE/3FA/3MBE/3YIE",
    "3GAH/3DHII/3KPAH/3JO/3HWAH/3WA/3ZO/3GBU/3DO/3CE/3UWU/3TO/3BA/3VU/3YEIN/3PA/3WADDA/3A/3O/3OO",
    "3U/3EE/3E/3I/@16AF0/2COMBINING HIGH TONE/3LOW TONE/3MID TONE/3LOW-MID TONE/3HIGH-LOW TONE",
    "2FULL STOP/@16B00/0PAHAWH HMONG VOWEL KEEB/3KEEV/3KIB/3KIV/3KAUB/3KAUV/3KUB/3KUV/3KEB/3KEV",
    "3KAIB/3KAIV/3KOOB/3KOOV/3KAWB/3KAWV/3KUAB/3KUAV/3KOB/3KOV/3KIAB/3KIAV/3KAB/3KAV/3KWB/3KWV",
    "3KAAB/3KAAV/2CONSONANT VAU/3NTSAU/3LAU/3HAU/3NLAU/3RAU/3NKAU/3QHAU/3YAU/3HLAU/3MAU/3CHAU",
    "3NCHAU/3HNAU/3PLHAU/3NTHAU/3NAU/3AU/3XAU/3CAU/2MARK CIM TUB/4SO/4KES/4KHAV/4SUAM/4HOM/4TAUM",
    "2SIGN VOS THOM/4TSHAB CEEB/3CIM CHEEM/3VOS THIAB/4FEEM/3XYEEM NTXIV/4RHO/4TOV/4FAIB",
    "3VOS SEEV/3MEEJ SUAB/3VOS NRUA/3IB YAM/3XAUS/3CIM TSOV ROG/@16B50/2DIGIT ZERO/3ONE/3TWO",
    "3THREE/3FOUR/3FIVE/3SIX/3SEVEN/3EIGHT/3NINE/@16B5B/2NUMBER TENS/3HUNDREDS/3TEN THOUSANDS",
    "3MILLIONS/3HUNDRED MILLIONS/3TEN BILLIONS/3TRILLIONS/@16B63/2SIGN VOS LUB/3XYOO/3HLI",
    "3THIRD-STAGE HLI/3ZWJ THAJ/3HNUB/3NQIG/3XIAB/3NTUJ/3AV/3TXHEEJ CEEV/3MEEJ TSEEB/3TAU/3LOS",
    "3MUS/3CIM HAIS LUS NTOG NTOG/4CUAM TSHOOJ/4TXWV/5CHWV/4PUB DAWB/4NRES TOS",
    "@16B7D/2CLAN SIGN TSHEEJ/4YEEG/4LIS/4LAUJ/4XYOOJ/4KOO/4HAWJ/4MUAS/4THOJ/4TSAB/4PHAB/4KHAB",
    "4HAM/4VAJ/4FAJ/4YAJ/4TSWB/4KWM/4VWJ/@16E40/0MEDEFAIDRIN CAPITAL LETTER M/3S/3V/3W/3ATIU/3Z",
    "3KP/3P/3T/3G/3F/3I/3K/3A/3J/3E/3B/3C/3U/3YU/3L/3Q/3HP/3NY/3X/3D/3OE/3N/3R/3O/3AI/3Y",
    "1SMALL LETTER M/3S/3V/3W/3ATIU/3Z/3KP/3P/3T/3G/3F/3I/3K/3A/3J/3E/3B/3C/3U/3YU/3L/3Q/3HP/3NY",
    "3X/3D/3OE/3N/3R/3O/3AI/3Y/1DIGIT ZERO/2ONE/2TWO/2THREE/2FOUR/2FIVE/2SIX/2SEVEN/2EIGHT/2NINE",
    "1NUMBER TEN/2ELEVEN/2TWELVE/2THIRTEEN/2FOURTEEN/2FIFTEEN/2SIXTEEN/2SEVENTEEN/2EIGHTEEN",
    "2NINETEEN/1DIGIT ONE ALTERNATE FORM/2TWO ALTERNATE FORM/2THREE ALTERNATE FORM/1COMMA",
    "1FULL STOP/1SYMBOL AIVA/1EXCLAMATION OH/@16F00/0MIAO LETTER PA/2BA/2YI PA/2PLA/2MA/2MHA",
    "2ARCHAIC MA/2FA/2VA/2VFA/2TA/2DA/2YI TTA/3TA/2TTA/2DDA/2NA/2NHA/2YI NNA/2ARCHAIC NA/2NNA",
    "2NNHA/2LA/2LYA/2LHA/2LHYA/2TLHA/2DLHA/2TLHYA/2DLHYA/2KA/2GA/2YI KA/2QA/2QGA/2NGA/2NGHA",
    "2ARCHAIC NGA/2HA/2XA/2GHA/2GHHA/2TSSA/2DZZA/2NYA/2NYHA/2TSHA/2DZHA/2YI TSHA/3DZHA",
    "2REFORMED TSHA/2SHA/2SSA/2ZHA/2ZSHA/2TSA/2DZA/2YI TSA/2SA/2ZA/2ZSA/2ZZA/2ZZSA/2ARCHAIC ZZA",
    "2ZZYA/2ZZSYA/2WA/2AH/2HHA/2BRI/2SYI/2DZYI/2TE/2TSE/2RTE/@16F4F/1SIGN CONSONANT MODIFIER BAR",
    "1LETTER NASALIZATION/1SIGN ASPIRATION/2REFORMED VOICING/3ASPIRATION/1VOWEL SIGN A/3AA/3AHH",
    "3AN/3ANG/3O/3OO/3WO/3W/3E/3EN/3ENG/3OEY/3I/3IA/3IAN/3IANG/3IO/3IE/3II/3IU/3ING/3U/3UA/3UAN",
    "3UANG/3UU/3UEI/3UNG/3Y/3YI/3AE/3AEE/3ERR/3ROUNDED ERR/3ER/3ROUNDED ER/3AI/3EI/3AU/3OU/3N/3NG",
    "3UOG/3YUI/3OG/3OER/3VW/3IG/3EA/3IONG/3UI/@16F8F/1TONE RIGHT/2TOP RIGHT/2ABOVE/2BELOW",
    "1LETTER TONE-2/2TONE-3/2TONE-4/2TONE-5/2TONE-6/2TONE-7/2TONE-8/2REFORMED TONE-1/3TONE-2",
    "3TONE-4/3TONE-5/3TONE-6/3TONE-8/@16FE0/0TANGUT ITERATION MARK/0NUSHU ITERATION MARK",
    "0OLD CHINESE HOOK MARK/2ITERATION MARK/0KHITAN SMALL SCRIPT FILLER",
    "@16FF0/0VIETNAMESE ALTERNATE READING MARK CA/4NHAY"]

end Crontab.Text.Names
