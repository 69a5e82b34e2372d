import FieldChecks.Text.DecimalNumber

/-!
# General categories

The Unicode general category of a character. A table lists the ranges of
code points with the two-letter code of their category in front of each;
decimal numbers have a table of their own, and what no table lists is
unassigned.
-/

namespace FieldChecks

/-- The Unicode general categories. -/
inductive Category where
  | uppercaseLetter
  | lowercaseLetter
  | titlecaseLetter
  | modifierLetter
  | otherLetter
  | nonspacingMark
  | spacingMark
  | enclosingMark
  | decimalNumber
  | letterNumber
  | otherNumber
  | connectorPunctuation
  | dashPunctuation
  | openPunctuation
  | closePunctuation
  | initialPunctuation
  | finalPunctuation
  | otherPunctuation
  | mathSymbol
  | currencySymbol
  | modifierSymbol
  | otherSymbol
  | spaceSeparator
  | lineSeparator
  | paragraphSeparator
  | control
  | format
  | surrogate
  | privateUse
  | unassigned
  deriving Repr, DecidableEq

namespace Category

/-- The two-letter code of a category. -/
def code : Category → String
  | .uppercaseLetter => "Lu"
  | .lowercaseLetter => "Ll"
  | .titlecaseLetter => "Lt"
  | .modifierLetter => "Lm"
  | .otherLetter => "Lo"
  | .nonspacingMark => "Mn"
  | .spacingMark => "Mc"
  | .enclosingMark => "Me"
  | .decimalNumber => "Nd"
  | .letterNumber => "Nl"
  | .otherNumber => "No"
  | .connectorPunctuation => "Pc"
  | .dashPunctuation => "Pd"
  | .openPunctuation => "Ps"
  | .closePunctuation => "Pe"
  | .initialPunctuation => "Pi"
  | .finalPunctuation => "Pf"
  | .otherPunctuation => "Po"
  | .mathSymbol => "Sm"
  | .currencySymbol => "Sc"
  | .modifierSymbol => "Sk"
  | .otherSymbol => "So"
  | .spaceSeparator => "Zs"
  | .lineSeparator => "Zl"
  | .paragraphSeparator => "Zp"
  | .control => "Cc"
  | .format => "Cf"
  | .surrogate => "Cs"
  | .privateUse => "Co"
  | .unassigned => "Cn"

/-- Every category. -/
def all : List Category :=
  [
   .uppercaseLetter, .lowercaseLetter, .titlecaseLetter, .modifierLetter, .otherLetter,
   .nonspacingMark, .spacingMark, .enclosingMark, .decimalNumber, .letterNumber,
   .otherNumber, .connectorPunctuation, .dashPunctuation, .openPunctuation,
   .closePunctuation, .initialPunctuation, .finalPunctuation, .otherPunctuation,
   .mathSymbol, .currencySymbol, .modifierSymbol, .otherSymbol, .spaceSeparator,
   .lineSeparator, .paragraphSeparator, .control, .format, .surrogate, .privateUse,
   .unassigned]

/-- The category of a two-letter code. -/
def ofCode? (code : String) : Option Category :=
  all.find? fun category => category.code == code

/-- The range of code points and the category that an entry of the table gives. -/
def readItem? (entry : String) : Option (Nat × Nat × Category) := do
  let category ← ofCode? (entry.take 2).toString
  let (first, last) ← RangeTable.readItem? (entry.drop 2).toString
  return (first, last, category)

/-- The entry that holds a code point, in a table of increasing ranges. -/
def search : List (Nat × Nat × Category) → Nat → Option Category
  | [], _ => none
  | (first, last, category) :: rest, n =>
    if n < first then none else if n ≤ last then some category else search rest n

/-- The ranges of code points of every category but Decimal_Number and Unassigned. -/
def tableText : String :=
  "
  Cc0-1f Zs20 Po21-23 Sc24 Po25-27 Ps28 Pe29 Po2a Sm2b Po2c Pd2d Po2e-2f Po3a-3b Sm3c-3e
  Po3f-40 Lu41-5a Ps5b Po5c Pe5d Sk5e Pc5f Sk60 Ll61-7a Ps7b Sm7c Pe7d Sm7e Cc7f-9f Zsa0 Poa1
  Sca2-a5 Soa6 Poa7 Ska8 Soa9 Loaa Piab Smac Cfad Soae Skaf Sob0 Smb1 Nob2-b3 Skb4 Llb5 Pob6-b7
  Skb8 Nob9 Loba Pfbb Nobc-be Pobf Luc0-d6 Smd7 Lud8-de Lldf-f6 Smf7 Llf8-ff Lu100 Ll101 Lu102
  Ll103 Lu104 Ll105 Lu106 Ll107 Lu108 Ll109 Lu10a Ll10b Lu10c Ll10d Lu10e Ll10f Lu110 Ll111
  Lu112 Ll113 Lu114 Ll115 Lu116 Ll117 Lu118 Ll119 Lu11a Ll11b Lu11c Ll11d Lu11e Ll11f Lu120
  Ll121 Lu122 Ll123 Lu124 Ll125 Lu126 Ll127 Lu128 Ll129 Lu12a Ll12b Lu12c Ll12d Lu12e Ll12f
  Lu130 Ll131 Lu132 Ll133 Lu134 Ll135 Lu136 Ll137-138 Lu139 Ll13a Lu13b Ll13c Lu13d Ll13e Lu13f
  Ll140 Lu141 Ll142 Lu143 Ll144 Lu145 Ll146 Lu147 Ll148-149 Lu14a Ll14b Lu14c Ll14d Lu14e Ll14f
  Lu150 Ll151 Lu152 Ll153 Lu154 Ll155 Lu156 Ll157 Lu158 Ll159 Lu15a Ll15b Lu15c Ll15d Lu15e
  Ll15f Lu160 Ll161 Lu162 Ll163 Lu164 Ll165 Lu166 Ll167 Lu168 Ll169 Lu16a Ll16b Lu16c Ll16d
  Lu16e Ll16f Lu170 Ll171 Lu172 Ll173 Lu174 Ll175 Lu176 Ll177 Lu178-179 Ll17a Lu17b Ll17c Lu17d
  Ll17e-180 Lu181-182 Ll183 Lu184 Ll185 Lu186-187 Ll188 Lu189-18b Ll18c-18d Lu18e-191 Ll192
  Lu193-194 Ll195 Lu196-198 Ll199-19b Lu19c-19d Ll19e Lu19f-1a0 Ll1a1 Lu1a2 Ll1a3 Lu1a4 Ll1a5
  Lu1a6-1a7 Ll1a8 Lu1a9 Ll1aa-1ab Lu1ac Ll1ad Lu1ae-1af Ll1b0 Lu1b1-1b3 Ll1b4 Lu1b5 Ll1b6
  Lu1b7-1b8 Ll1b9-1ba Lo1bb Lu1bc Ll1bd-1bf Lo1c0-1c3 Lu1c4 Lt1c5 Ll1c6 Lu1c7 Lt1c8 Ll1c9 Lu1ca
  Lt1cb Ll1cc Lu1cd Ll1ce Lu1cf Ll1d0 Lu1d1 Ll1d2 Lu1d3 Ll1d4 Lu1d5 Ll1d6 Lu1d7 Ll1d8 Lu1d9
  Ll1da Lu1db Ll1dc-1dd Lu1de Ll1df Lu1e0 Ll1e1 Lu1e2 Ll1e3 Lu1e4 Ll1e5 Lu1e6 Ll1e7 Lu1e8 Ll1e9
  Lu1ea Ll1eb Lu1ec Ll1ed Lu1ee Ll1ef-1f0 Lu1f1 Lt1f2 Ll1f3 Lu1f4 Ll1f5 Lu1f6-1f8 Ll1f9 Lu1fa
  Ll1fb Lu1fc Ll1fd Lu1fe Ll1ff Lu200 Ll201 Lu202 Ll203 Lu204 Ll205 Lu206 Ll207 Lu208 Ll209
  Lu20a Ll20b Lu20c Ll20d Lu20e Ll20f Lu210 Ll211 Lu212 Ll213 Lu214 Ll215 Lu216 Ll217 Lu218
  Ll219 Lu21a Ll21b Lu21c Ll21d Lu21e Ll21f Lu220 Ll221 Lu222 Ll223 Lu224 Ll225 Lu226 Ll227
  Lu228 Ll229 Lu22a Ll22b Lu22c Ll22d Lu22e Ll22f Lu230 Ll231 Lu232 Ll233-239 Lu23a-23b Ll23c
  Lu23d-23e Ll23f-240 Lu241 Ll242 Lu243-246 Ll247 Lu248 Ll249 Lu24a Ll24b Lu24c Ll24d Lu24e
  Ll24f-293 Lo294-295 Ll296-2af Lm2b0-2c1 Sk2c2-2c5 Lm2c6-2d1 Sk2d2-2df Lm2e0-2e4 Sk2e5-2eb
  Lm2ec Sk2ed Lm2ee Sk2ef-2ff Mn300-36f Lu370 Ll371 Lu372 Ll373 Lm374 Sk375 Lu376 Ll377 Lm37a
  Ll37b-37d Po37e Lu37f Sk384-385 Lu386 Po387 Lu388-38a Lu38c Lu38e-38f Ll390 Lu391-3a1
  Lu3a3-3ab Ll3ac-3ce Lu3cf Ll3d0-3d1 Lu3d2-3d4 Ll3d5-3d7 Lu3d8 Ll3d9 Lu3da Ll3db Lu3dc Ll3dd
  Lu3de Ll3df Lu3e0 Ll3e1 Lu3e2 Ll3e3 Lu3e4 Ll3e5 Lu3e6 Ll3e7 Lu3e8 Ll3e9 Lu3ea Ll3eb Lu3ec
  Ll3ed Lu3ee Ll3ef-3f3 Lu3f4 Ll3f5 Sm3f6 Lu3f7 Ll3f8 Lu3f9-3fa Ll3fb-3fc Lu3fd-42f Ll430-45f
  Lu460 Ll461 Lu462 Ll463 Lu464 Ll465 Lu466 Ll467 Lu468 Ll469 Lu46a Ll46b Lu46c Ll46d Lu46e
  Ll46f Lu470 Ll471 Lu472 Ll473 Lu474 Ll475 Lu476 Ll477 Lu478 Ll479 Lu47a Ll47b Lu47c Ll47d
  Lu47e Ll47f Lu480 Ll481 So482 Mn483-487 Me488-489 Lu48a Ll48b Lu48c Ll48d Lu48e Ll48f Lu490
  Ll491 Lu492 Ll493 Lu494 Ll495 Lu496 Ll497 Lu498 Ll499 Lu49a Ll49b Lu49c Ll49d Lu49e Ll49f
  Lu4a0 Ll4a1 Lu4a2 Ll4a3 Lu4a4 Ll4a5 Lu4a6 Ll4a7 Lu4a8 Ll4a9 Lu4aa Ll4ab Lu4ac Ll4ad Lu4ae
  Ll4af Lu4b0 Ll4b1 Lu4b2 Ll4b3 Lu4b4 Ll4b5 Lu4b6 Ll4b7 Lu4b8 Ll4b9 Lu4ba Ll4bb Lu4bc Ll4bd
  Lu4be Ll4bf Lu4c0-4c1 Ll4c2 Lu4c3 Ll4c4 Lu4c5 Ll4c6 Lu4c7 Ll4c8 Lu4c9 Ll4ca Lu4cb Ll4cc Lu4cd
  Ll4ce-4cf Lu4d0 Ll4d1 Lu4d2 Ll4d3 Lu4d4 Ll4d5 Lu4d6 Ll4d7 Lu4d8 Ll4d9 Lu4da Ll4db Lu4dc Ll4dd
  Lu4de Ll4df Lu4e0 Ll4e1 Lu4e2 Ll4e3 Lu4e4 Ll4e5 Lu4e6 Ll4e7 Lu4e8 Ll4e9 Lu4ea Ll4eb Lu4ec
  Ll4ed Lu4ee Ll4ef Lu4f0 Ll4f1 Lu4f2 Ll4f3 Lu4f4 Ll4f5 Lu4f6 Ll4f7 Lu4f8 Ll4f9 Lu4fa Ll4fb
  Lu4fc Ll4fd Lu4fe Ll4ff Lu500 Ll501 Lu502 Ll503 Lu504 Ll505 Lu506 Ll507 Lu508 Ll509 Lu50a
  Ll50b Lu50c Ll50d Lu50e Ll50f Lu510 Ll511 Lu512 Ll513 Lu514 Ll515 Lu516 Ll517 Lu518 Ll519
  Lu51a Ll51b Lu51c Ll51d Lu51e Ll51f Lu520 Ll521 Lu522 Ll523 Lu524 Ll525 Lu526 Ll527 Lu528
  Ll529 Lu52a Ll52b Lu52c Ll52d Lu52e Ll52f Lu531-556 Lm559 Po55a-55f Ll560-588 Po589 Pd58a
  So58d-58e Sc58f Mn591-5bd Pd5be Mn5bf Po5c0 Mn5c1-5c2 Po5c3 Mn5c4-5c5 Po5c6 Mn5c7 Lo5d0-5ea
  Lo5ef-5f2 Po5f3-5f4 Cf600-605 Sm606-608 Po609-60a Sc60b Po60c-60d So60e-60f Mn610-61a Po61b
  Cf61c Po61d-61f Lo620-63f Lm640 Lo641-64a Mn64b-65f Po66a-66d Lo66e-66f Mn670 Lo671-6d3 Po6d4
  Lo6d5 Mn6d6-6dc Cf6dd So6de Mn6df-6e4 Lm6e5-6e6 Mn6e7-6e8 So6e9 Mn6ea-6ed Lo6ee-6ef Lo6fa-6fc
  So6fd-6fe Lo6ff Po700-70d Cf70f Lo710 Mn711 Lo712-72f Mn730-74a Lo74d-7a5 Mn7a6-7b0 Lo7b1
  Lo7ca-7ea Mn7eb-7f3 Lm7f4-7f5 So7f6 Po7f7-7f9 Lm7fa Mn7fd Sc7fe-7ff Lo800-815 Mn816-819 Lm81a
  Mn81b-823 Lm824 Mn825-827 Lm828 Mn829-82d Po830-83e Lo840-858 Mn859-85b Po85e Lo860-86a
  Lo870-887 Sk888 Lo889-88f Cf890-891 Mn897-89f Lo8a0-8c8 Lm8c9 Mn8ca-8e1 Cf8e2 Mn8e3-902 Mc903
  Lo904-939 Mn93a Mc93b Mn93c Lo93d Mc93e-940 Mn941-948 Mc949-94c Mn94d Mc94e-94f Lo950
  Mn951-957 Lo958-961 Mn962-963 Po964-965 Po970 Lm971 Lo972-980 Mn981 Mc982-983 Lo985-98c
  Lo98f-990 Lo993-9a8 Lo9aa-9b0 Lo9b2 Lo9b6-9b9 Mn9bc Lo9bd Mc9be-9c0 Mn9c1-9c4 Mc9c7-9c8
  Mc9cb-9cc Mn9cd Lo9ce Mc9d7 Lo9dc-9dd Lo9df-9e1 Mn9e2-9e3 Lo9f0-9f1 Sc9f2-9f3 No9f4-9f9 So9fa
  Sc9fb Lo9fc Po9fd Mn9fe Mna01-a02 Mca03 Loa05-a0a Loa0f-a10 Loa13-a28 Loa2a-a30 Loa32-a33
  Loa35-a36 Loa38-a39 Mna3c Mca3e-a40 Mna41-a42 Mna47-a48 Mna4b-a4d Mna51 Loa59-a5c Loa5e
  Mna70-a71 Loa72-a74 Mna75 Poa76 Mna81-a82 Mca83 Loa85-a8d Loa8f-a91 Loa93-aa8 Loaaa-ab0
  Loab2-ab3 Loab5-ab9 Mnabc Loabd Mcabe-ac0 Mnac1-ac5 Mnac7-ac8 Mcac9 Mcacb-acc Mnacd Load0
  Loae0-ae1 Mnae2-ae3 Poaf0 Scaf1 Loaf9 Mnafa-aff Mnb01 Mcb02-b03 Lob05-b0c Lob0f-b10 Lob13-b28
  Lob2a-b30 Lob32-b33 Lob35-b39 Mnb3c Lob3d Mcb3e Mnb3f Mcb40 Mnb41-b44 Mcb47-b48 Mcb4b-b4c
  Mnb4d Mnb55-b56 Mcb57 Lob5c-b5d Lob5f-b61 Mnb62-b63 Sob70 Lob71 Nob72-b77 Mnb82 Lob83
  Lob85-b8a Lob8e-b90 Lob92-b95 Lob99-b9a Lob9c Lob9e-b9f Loba3-ba4 Loba8-baa Lobae-bb9
  Mcbbe-bbf Mnbc0 Mcbc1-bc2 Mcbc6-bc8 Mcbca-bcc Mnbcd Lobd0 Mcbd7 Nobf0-bf2 Sobf3-bf8 Scbf9
  Sobfa Mnc00 Mcc01-c03 Mnc04 Loc05-c0c Loc0e-c10 Loc12-c28 Loc2a-c39 Mnc3c Loc3d Mnc3e-c40
  Mcc41-c44 Mnc46-c48 Mnc4a-c4d Mnc55-c56 Loc58-c5a Loc5c-c5d Loc60-c61 Mnc62-c63 Poc77
  Noc78-c7e Soc7f Loc80 Mnc81 Mcc82-c83 Poc84 Loc85-c8c Loc8e-c90 Loc92-ca8 Locaa-cb3 Locb5-cb9
  Mncbc Locbd Mccbe Mncbf Mccc0-cc4 Mncc6 Mccc7-cc8 Mccca-ccb Mnccc-ccd Mccd5-cd6 Locdc-cde
  Loce0-ce1 Mnce2-ce3 Locf1-cf2 Mccf3 Mnd00-d01 Mcd02-d03 Lod04-d0c Lod0e-d10 Lod12-d3a
  Mnd3b-d3c Lod3d Mcd3e-d40 Mnd41-d44 Mcd46-d48 Mcd4a-d4c Mnd4d Lod4e Sod4f Lod54-d56 Mcd57
  Nod58-d5e Lod5f-d61 Mnd62-d63 Nod70-d78 Sod79 Lod7a-d7f Mnd81 Mcd82-d83 Lod85-d96 Lod9a-db1
  Lodb3-dbb Lodbd Lodc0-dc6 Mndca Mcdcf-dd1 Mndd2-dd4 Mndd6 Mcdd8-ddf Mcdf2-df3 Podf4 Loe01-e30
  Mne31 Loe32-e33 Mne34-e3a Sce3f Loe40-e45 Lme46 Mne47-e4e Poe4f Poe5a-e5b Loe81-e82 Loe84
  Loe86-e8a Loe8c-ea3 Loea5 Loea7-eb0 Mneb1 Loeb2-eb3 Mneb4-ebc Loebd Loec0-ec4 Lmec6 Mnec8-ece
  Loedc-edf Lof00 Sof01-f03 Pof04-f12 Sof13 Pof14 Sof15-f17 Mnf18-f19 Sof1a-f1f Nof2a-f33 Sof34
  Mnf35 Sof36 Mnf37 Sof38 Mnf39 Psf3a Pef3b Psf3c Pef3d Mcf3e-f3f Lof40-f47 Lof49-f6c Mnf71-f7e
  Mcf7f Mnf80-f84 Pof85 Mnf86-f87 Lof88-f8c Mnf8d-f97 Mnf99-fbc Sofbe-fc5 Mnfc6 Sofc7-fcc
  Sofce-fcf Pofd0-fd4 Sofd5-fd8 Pofd9-fda Lo1000-102a Mc102b-102c Mn102d-1030 Mc1031
  Mn1032-1037 Mc1038 Mn1039-103a Mc103b-103c Mn103d-103e Lo103f Po104a-104f Lo1050-1055
  Mc1056-1057 Mn1058-1059 Lo105a-105d Mn105e-1060 Lo1061 Mc1062-1064 Lo1065-1066 Mc1067-106d
  Lo106e-1070 Mn1071-1074 Lo1075-1081 Mn1082 Mc1083-1084 Mn1085-1086 Mc1087-108c Mn108d Lo108e
  Mc108f Mc109a-109c Mn109d So109e-109f Lu10a0-10c5 Lu10c7 Lu10cd Ll10d0-10fa Po10fb Lm10fc
  Ll10fd-10ff Lo1100-1248 Lo124a-124d Lo1250-1256 Lo1258 Lo125a-125d Lo1260-1288 Lo128a-128d
  Lo1290-12b0 Lo12b2-12b5 Lo12b8-12be Lo12c0 Lo12c2-12c5 Lo12c8-12d6 Lo12d8-1310 Lo1312-1315
  Lo1318-135a Mn135d-135f Po1360-1368 No1369-137c Lo1380-138f So1390-1399 Lu13a0-13f5
  Ll13f8-13fd Pd1400 Lo1401-166c So166d Po166e Lo166f-167f Zs1680 Lo1681-169a Ps169b Pe169c
  Lo16a0-16ea Po16eb-16ed Nl16ee-16f0 Lo16f1-16f8 Lo1700-1711 Mn1712-1714 Mc1715 Lo171f-1731
  Mn1732-1733 Mc1734 Po1735-1736 Lo1740-1751 Mn1752-1753 Lo1760-176c Lo176e-1770 Mn1772-1773
  Lo1780-17b3 Mn17b4-17b5 Mc17b6 Mn17b7-17bd Mc17be-17c5 Mn17c6 Mc17c7-17c8 Mn17c9-17d3
  Po17d4-17d6 Lm17d7 Po17d8-17da Sc17db Lo17dc Mn17dd No17f0-17f9 Po1800-1805 Pd1806
  Po1807-180a Mn180b-180d Cf180e Mn180f Lo1820-1842 Lm1843 Lo1844-1878 Lo1880-1884 Mn1885-1886
  Lo1887-18a8 Mn18a9 Lo18aa Lo18b0-18f5 Lo1900-191e Mn1920-1922 Mc1923-1926 Mn1927-1928
  Mc1929-192b Mc1930-1931 Mn1932 Mc1933-1938 Mn1939-193b So1940 Po1944-1945 Lo1950-196d
  Lo1970-1974 Lo1980-19ab Lo19b0-19c9 No19da So19de-19ff Lo1a00-1a16 Mn1a17-1a18 Mc1a19-1a1a
  Mn1a1b Po1a1e-1a1f Lo1a20-1a54 Mc1a55 Mn1a56 Mc1a57 Mn1a58-1a5e Mn1a60 Mc1a61 Mn1a62
  Mc1a63-1a64 Mn1a65-1a6c Mc1a6d-1a72 Mn1a73-1a7c Mn1a7f Po1aa0-1aa6 Lm1aa7 Po1aa8-1aad
  Mn1ab0-1abd Me1abe Mn1abf-1add Mn1ae0-1aeb Mn1b00-1b03 Mc1b04 Lo1b05-1b33 Mn1b34 Mc1b35
  Mn1b36-1b3a Mc1b3b Mn1b3c Mc1b3d-1b41 Mn1b42 Mc1b43-1b44 Lo1b45-1b4c Po1b4e-1b4f Po1b5a-1b60
  So1b61-1b6a Mn1b6b-1b73 So1b74-1b7c Po1b7d-1b7f Mn1b80-1b81 Mc1b82 Lo1b83-1ba0 Mc1ba1
  Mn1ba2-1ba5 Mc1ba6-1ba7 Mn1ba8-1ba9 Mc1baa Mn1bab-1bad Lo1bae-1baf Lo1bba-1be5 Mn1be6 Mc1be7
  Mn1be8-1be9 Mc1bea-1bec Mn1bed Mc1bee Mn1bef-1bf1 Mc1bf2-1bf3 Po1bfc-1bff Lo1c00-1c23
  Mc1c24-1c2b Mn1c2c-1c33 Mc1c34-1c35 Mn1c36-1c37 Po1c3b-1c3f Lo1c4d-1c4f Lo1c5a-1c77
  Lm1c78-1c7d Po1c7e-1c7f Ll1c80-1c88 Lu1c89 Ll1c8a Lu1c90-1cba Lu1cbd-1cbf Po1cc0-1cc7
  Mn1cd0-1cd2 Po1cd3 Mn1cd4-1ce0 Mc1ce1 Mn1ce2-1ce8 Lo1ce9-1cec Mn1ced Lo1cee-1cf3 Mn1cf4
  Lo1cf5-1cf6 Mc1cf7 Mn1cf8-1cf9 Lo1cfa Ll1d00-1d2b Lm1d2c-1d6a Ll1d6b-1d77 Lm1d78 Ll1d79-1d9a
  Lm1d9b-1dbf Mn1dc0-1dff Lu1e00 Ll1e01 Lu1e02 Ll1e03 Lu1e04 Ll1e05 Lu1e06 Ll1e07 Lu1e08 Ll1e09
  Lu1e0a Ll1e0b Lu1e0c Ll1e0d Lu1e0e Ll1e0f Lu1e10 Ll1e11 Lu1e12 Ll1e13 Lu1e14 Ll1e15 Lu1e16
  Ll1e17 Lu1e18 Ll1e19 Lu1e1a Ll1e1b Lu1e1c Ll1e1d Lu1e1e Ll1e1f Lu1e20 Ll1e21 Lu1e22 Ll1e23
  Lu1e24 Ll1e25 Lu1e26 Ll1e27 Lu1e28 Ll1e29 Lu1e2a Ll1e2b Lu1e2c Ll1e2d Lu1e2e Ll1e2f Lu1e30
  Ll1e31 Lu1e32 Ll1e33 Lu1e34 Ll1e35 Lu1e36 Ll1e37 Lu1e38 Ll1e39 Lu1e3a Ll1e3b Lu1e3c Ll1e3d
  Lu1e3e Ll1e3f Lu1e40 Ll1e41 Lu1e42 Ll1e43 Lu1e44 Ll1e45 Lu1e46 Ll1e47 Lu1e48 Ll1e49 Lu1e4a
  Ll1e4b Lu1e4c Ll1e4d Lu1e4e Ll1e4f Lu1e50 Ll1e51 Lu1e52 Ll1e53 Lu1e54 Ll1e55 Lu1e56 Ll1e57
  Lu1e58 Ll1e59 Lu1e5a Ll1e5b Lu1e5c Ll1e5d Lu1e5e Ll1e5f Lu1e60 Ll1e61 Lu1e62 Ll1e63 Lu1e64
  Ll1e65 Lu1e66 Ll1e67 Lu1e68 Ll1e69 Lu1e6a Ll1e6b Lu1e6c Ll1e6d Lu1e6e Ll1e6f Lu1e70 Ll1e71
  Lu1e72 Ll1e73 Lu1e74 Ll1e75 Lu1e76 Ll1e77 Lu1e78 Ll1e79 Lu1e7a Ll1e7b Lu1e7c Ll1e7d Lu1e7e
  Ll1e7f Lu1e80 Ll1e81 Lu1e82 Ll1e83 Lu1e84 Ll1e85 Lu1e86 Ll1e87 Lu1e88 Ll1e89 Lu1e8a Ll1e8b
  Lu1e8c Ll1e8d Lu1e8e Ll1e8f Lu1e90 Ll1e91 Lu1e92 Ll1e93 Lu1e94 Ll1e95-1e9d Lu1e9e Ll1e9f
  Lu1ea0 Ll1ea1 Lu1ea2 Ll1ea3 Lu1ea4 Ll1ea5 Lu1ea6 Ll1ea7 Lu1ea8 Ll1ea9 Lu1eaa Ll1eab Lu1eac
  Ll1ead Lu1eae Ll1eaf Lu1eb0 Ll1eb1 Lu1eb2 Ll1eb3 Lu1eb4 Ll1eb5 Lu1eb6 Ll1eb7 Lu1eb8 Ll1eb9
  Lu1eba Ll1ebb Lu1ebc Ll1ebd Lu1ebe Ll1ebf Lu1ec0 Ll1ec1 Lu1ec2 Ll1ec3 Lu1ec4 Ll1ec5 Lu1ec6
  Ll1ec7 Lu1ec8 Ll1ec9 Lu1eca Ll1ecb Lu1ecc Ll1ecd Lu1ece Ll1ecf Lu1ed0 Ll1ed1 Lu1ed2 Ll1ed3
  Lu1ed4 Ll1ed5 Lu1ed6 Ll1ed7 Lu1ed8 Ll1ed9 Lu1eda Ll1edb Lu1edc Ll1edd Lu1ede Ll1edf Lu1ee0
  Ll1ee1 Lu1ee2 Ll1ee3 Lu1ee4 Ll1ee5 Lu1ee6 Ll1ee7 Lu1ee8 Ll1ee9 Lu1eea Ll1eeb Lu1eec Ll1eed
  Lu1eee Ll1eef Lu1ef0 Ll1ef1 Lu1ef2 Ll1ef3 Lu1ef4 Ll1ef5 Lu1ef6 Ll1ef7 Lu1ef8 Ll1ef9 Lu1efa
  Ll1efb Lu1efc Ll1efd Lu1efe Ll1eff-1f07 Lu1f08-1f0f Ll1f10-1f15 Lu1f18-1f1d Ll1f20-1f27
  Lu1f28-1f2f Ll1f30-1f37 Lu1f38-1f3f Ll1f40-1f45 Lu1f48-1f4d Ll1f50-1f57 Lu1f59 Lu1f5b Lu1f5d
  Lu1f5f Ll1f60-1f67 Lu1f68-1f6f Ll1f70-1f7d Ll1f80-1f87 Lt1f88-1f8f Ll1f90-1f97 Lt1f98-1f9f
  Ll1fa0-1fa7 Lt1fa8-1faf Ll1fb0-1fb4 Ll1fb6-1fb7 Lu1fb8-1fbb Lt1fbc Sk1fbd Ll1fbe Sk1fbf-1fc1
  Ll1fc2-1fc4 Ll1fc6-1fc7 Lu1fc8-1fcb Lt1fcc Sk1fcd-1fcf Ll1fd0-1fd3 Ll1fd6-1fd7 Lu1fd8-1fdb
  Sk1fdd-1fdf Ll1fe0-1fe7 Lu1fe8-1fec Sk1fed-1fef Ll1ff2-1ff4 Ll1ff6-1ff7 Lu1ff8-1ffb Lt1ffc
  Sk1ffd-1ffe Zs2000-200a Cf200b-200f Pd2010-2015 Po2016-2017 Pi2018 Pf2019 Ps201a Pi201b-201c
  Pf201d Ps201e Pi201f Po2020-2027 Zl2028 Zp2029 Cf202a-202e Zs202f Po2030-2038 Pi2039 Pf203a
  Po203b-203e Pc203f-2040 Po2041-2043 Sm2044 Ps2045 Pe2046 Po2047-2051 Sm2052 Po2053 Pc2054
  Po2055-205e Zs205f Cf2060-2064 Cf2066-206f No2070 Lm2071 No2074-2079 Sm207a-207c Ps207d
  Pe207e Lm207f No2080-2089 Sm208a-208c Ps208d Pe208e Lm2090-209c Sc20a0-20c1 Mn20d0-20dc
  Me20dd-20e0 Mn20e1 Me20e2-20e4 Mn20e5-20f0 So2100-2101 Lu2102 So2103-2106 Lu2107 So2108-2109
  Ll210a Lu210b-210d Ll210e-210f Lu2110-2112 Ll2113 So2114 Lu2115 So2116-2117 Sm2118
  Lu2119-211d So211e-2123 Lu2124 So2125 Lu2126 So2127 Lu2128 So2129 Lu212a-212d So212e Ll212f
  Lu2130-2133 Ll2134 Lo2135-2138 Ll2139 So213a-213b Ll213c-213d Lu213e-213f Sm2140-2144 Lu2145
  Ll2146-2149 So214a Sm214b So214c-214d Ll214e So214f No2150-215f Nl2160-2182 Lu2183 Ll2184
  Nl2185-2188 No2189 So218a-218b Sm2190-2194 So2195-2199 Sm219a-219b So219c-219f Sm21a0
  So21a1-21a2 Sm21a3 So21a4-21a5 Sm21a6 So21a7-21ad Sm21ae So21af-21cd Sm21ce-21cf So21d0-21d1
  Sm21d2 So21d3 Sm21d4 So21d5-21f3 Sm21f4-22ff So2300-2307 Ps2308 Pe2309 Ps230a Pe230b
  So230c-231f Sm2320-2321 So2322-2328 Ps2329 Pe232a So232b-237b Sm237c So237d-239a Sm239b-23b3
  So23b4-23db Sm23dc-23e1 So23e2-2429 So2440-244a No2460-249b So249c-24e9 No24ea-24ff
  So2500-25b6 Sm25b7 So25b8-25c0 Sm25c1 So25c2-25f7 Sm25f8-25ff So2600-266e Sm266f So2670-2767
  Ps2768 Pe2769 Ps276a Pe276b Ps276c Pe276d Ps276e Pe276f Ps2770 Pe2771 Ps2772 Pe2773 Ps2774
  Pe2775 No2776-2793 So2794-27bf Sm27c0-27c4 Ps27c5 Pe27c6 Sm27c7-27e5 Ps27e6 Pe27e7 Ps27e8
  Pe27e9 Ps27ea Pe27eb Ps27ec Pe27ed Ps27ee Pe27ef Sm27f0-27ff So2800-28ff Sm2900-2982 Ps2983
  Pe2984 Ps2985 Pe2986 Ps2987 Pe2988 Ps2989 Pe298a Ps298b Pe298c Ps298d Pe298e Ps298f Pe2990
  Ps2991 Pe2992 Ps2993 Pe2994 Ps2995 Pe2996 Ps2997 Pe2998 Sm2999-29d7 Ps29d8 Pe29d9 Ps29da
  Pe29db Sm29dc-29fb Ps29fc Pe29fd Sm29fe-2aff So2b00-2b2f Sm2b30-2b44 So2b45-2b46 Sm2b47-2b4c
  So2b4d-2b73 So2b76-2bff Lu2c00-2c2f Ll2c30-2c5f Lu2c60 Ll2c61 Lu2c62-2c64 Ll2c65-2c66 Lu2c67
  Ll2c68 Lu2c69 Ll2c6a Lu2c6b Ll2c6c Lu2c6d-2c70 Ll2c71 Lu2c72 Ll2c73-2c74 Lu2c75 Ll2c76-2c7b
  Lm2c7c-2c7d Lu2c7e-2c80 Ll2c81 Lu2c82 Ll2c83 Lu2c84 Ll2c85 Lu2c86 Ll2c87 Lu2c88 Ll2c89 Lu2c8a
  Ll2c8b Lu2c8c Ll2c8d Lu2c8e Ll2c8f Lu2c90 Ll2c91 Lu2c92 Ll2c93 Lu2c94 Ll2c95 Lu2c96 Ll2c97
  Lu2c98 Ll2c99 Lu2c9a Ll2c9b Lu2c9c Ll2c9d Lu2c9e Ll2c9f Lu2ca0 Ll2ca1 Lu2ca2 Ll2ca3 Lu2ca4
  Ll2ca5 Lu2ca6 Ll2ca7 Lu2ca8 Ll2ca9 Lu2caa Ll2cab Lu2cac Ll2cad Lu2cae Ll2caf Lu2cb0 Ll2cb1
  Lu2cb2 Ll2cb3 Lu2cb4 Ll2cb5 Lu2cb6 Ll2cb7 Lu2cb8 Ll2cb9 Lu2cba Ll2cbb Lu2cbc Ll2cbd Lu2cbe
  Ll2cbf Lu2cc0 Ll2cc1 Lu2cc2 Ll2cc3 Lu2cc4 Ll2cc5 Lu2cc6 Ll2cc7 Lu2cc8 Ll2cc9 Lu2cca Ll2ccb
  Lu2ccc Ll2ccd Lu2cce Ll2ccf Lu2cd0 Ll2cd1 Lu2cd2 Ll2cd3 Lu2cd4 Ll2cd5 Lu2cd6 Ll2cd7 Lu2cd8
  Ll2cd9 Lu2cda Ll2cdb Lu2cdc Ll2cdd Lu2cde Ll2cdf Lu2ce0 Ll2ce1 Lu2ce2 Ll2ce3-2ce4 So2ce5-2cea
  Lu2ceb Ll2cec Lu2ced Ll2cee Mn2cef-2cf1 Lu2cf2 Ll2cf3 Po2cf9-2cfc No2cfd Po2cfe-2cff
  Ll2d00-2d25 Ll2d27 Ll2d2d Lo2d30-2d67 Lm2d6f Po2d70 Mn2d7f Lo2d80-2d96 Lo2da0-2da6
  Lo2da8-2dae Lo2db0-2db6 Lo2db8-2dbe Lo2dc0-2dc6 Lo2dc8-2dce Lo2dd0-2dd6 Lo2dd8-2dde
  Mn2de0-2dff Po2e00-2e01 Pi2e02 Pf2e03 Pi2e04 Pf2e05 Po2e06-2e08 Pi2e09 Pf2e0a Po2e0b Pi2e0c
  Pf2e0d Po2e0e-2e16 Pd2e17 Po2e18-2e19 Pd2e1a Po2e1b Pi2e1c Pf2e1d Po2e1e-2e1f Pi2e20 Pf2e21
  Ps2e22 Pe2e23 Ps2e24 Pe2e25 Ps2e26 Pe2e27 Ps2e28 Pe2e29 Po2e2a-2e2e Lm2e2f Po2e30-2e39
  Pd2e3a-2e3b Po2e3c-2e3f Pd2e40 Po2e41 Ps2e42 Po2e43-2e4f So2e50-2e51 Po2e52-2e54 Ps2e55
  Pe2e56 Ps2e57 Pe2e58 Ps2e59 Pe2e5a Ps2e5b Pe2e5c Pd2e5d So2e80-2e99 So2e9b-2ef3 So2f00-2fd5
  So2ff0-2fff Zs3000 Po3001-3003 So3004 Lm3005 Lo3006 Nl3007 Ps3008 Pe3009 Ps300a Pe300b Ps300c
  Pe300d Ps300e Pe300f Ps3010 Pe3011 So3012-3013 Ps3014 Pe3015 Ps3016 Pe3017 Ps3018 Pe3019
  Ps301a Pe301b Pd301c Ps301d Pe301e-301f So3020 Nl3021-3029 Mn302a-302d Mc302e-302f Pd3030
  Lm3031-3035 So3036-3037 Nl3038-303a Lm303b Lo303c Po303d So303e-303f Lo3041-3096 Mn3099-309a
  Sk309b-309c Lm309d-309e Lo309f Pd30a0 Lo30a1-30fa Po30fb Lm30fc-30fe Lo30ff Lo3105-312f
  Lo3131-318e So3190-3191 No3192-3195 So3196-319f Lo31a0-31bf So31c0-31e5 So31ef Lo31f0-31ff
  So3200-321e No3220-3229 So322a-3247 No3248-324f So3250 No3251-325f So3260-327f No3280-3289
  So328a-32b0 No32b1-32bf So32c0-33ff Lo3400-4dbf So4dc0-4dff Lo4e00-a014 Lma015 Loa016-a48c
  Soa490-a4c6 Loa4d0-a4f7 Lma4f8-a4fd Poa4fe-a4ff Loa500-a60b Lma60c Poa60d-a60f Loa610-a61f
  Loa62a-a62b Lua640 Lla641 Lua642 Lla643 Lua644 Lla645 Lua646 Lla647 Lua648 Lla649 Lua64a
  Lla64b Lua64c Lla64d Lua64e Lla64f Lua650 Lla651 Lua652 Lla653 Lua654 Lla655 Lua656 Lla657
  Lua658 Lla659 Lua65a Lla65b Lua65c Lla65d Lua65e Lla65f Lua660 Lla661 Lua662 Lla663 Lua664
  Lla665 Lua666 Lla667 Lua668 Lla669 Lua66a Lla66b Lua66c Lla66d Loa66e Mna66f Mea670-a672
  Poa673 Mna674-a67d Poa67e Lma67f Lua680 Lla681 Lua682 Lla683 Lua684 Lla685 Lua686 Lla687
  Lua688 Lla689 Lua68a Lla68b Lua68c Lla68d Lua68e Lla68f Lua690 Lla691 Lua692 Lla693 Lua694
  Lla695 Lua696 Lla697 Lua698 Lla699 Lua69a Lla69b Lma69c-a69d Mna69e-a69f Loa6a0-a6e5
  Nla6e6-a6ef Mna6f0-a6f1 Poa6f2-a6f7 Ska700-a716 Lma717-a71f Ska720-a721 Lua722 Lla723 Lua724
  Lla725 Lua726 Lla727 Lua728 Lla729 Lua72a Lla72b Lua72c Lla72d Lua72e Lla72f-a731 Lua732
  Lla733 Lua734 Lla735 Lua736 Lla737 Lua738 Lla739 Lua73a Lla73b Lua73c Lla73d Lua73e Lla73f
  Lua740 Lla741 Lua742 Lla743 Lua744 Lla745 Lua746 Lla747 Lua748 Lla749 Lua74a Lla74b Lua74c
  Lla74d Lua74e Lla74f Lua750 Lla751 Lua752 Lla753 Lua754 Lla755 Lua756 Lla757 Lua758 Lla759
  Lua75a Lla75b Lua75c Lla75d Lua75e Lla75f Lua760 Lla761 Lua762 Lla763 Lua764 Lla765 Lua766
  Lla767 Lua768 Lla769 Lua76a Lla76b Lua76c Lla76d Lua76e Lla76f Lma770 Lla771-a778 Lua779
  Lla77a Lua77b Lla77c Lua77d-a77e Lla77f Lua780 Lla781 Lua782 Lla783 Lua784 Lla785 Lua786
  Lla787 Lma788 Ska789-a78a Lua78b Lla78c Lua78d Lla78e Loa78f Lua790 Lla791 Lua792 Lla793-a795
  Lua796 Lla797 Lua798 Lla799 Lua79a Lla79b Lua79c Lla79d Lua79e Lla79f Lua7a0 Lla7a1 Lua7a2
  Lla7a3 Lua7a4 Lla7a5 Lua7a6 Lla7a7 Lua7a8 Lla7a9 Lua7aa-a7ae Lla7af Lua7b0-a7b4 Lla7b5 Lua7b6
  Lla7b7 Lua7b8 Lla7b9 Lua7ba Lla7bb Lua7bc Lla7bd Lua7be Lla7bf Lua7c0 Lla7c1 Lua7c2 Lla7c3
  Lua7c4-a7c7 Lla7c8 Lua7c9 Lla7ca Lua7cb-a7cc Lla7cd Lua7ce Lla7cf Lua7d0 Lla7d1 Lua7d2 Lla7d3
  Lua7d4 Lla7d5 Lua7d6 Lla7d7 Lua7d8 Lla7d9 Lua7da Lla7db Lua7dc Lma7f1-a7f4 Lua7f5 Lla7f6
  Loa7f7 Lma7f8-a7f9 Lla7fa Loa7fb-a801 Mna802 Loa803-a805 Mna806 Loa807-a80a Mna80b
  Loa80c-a822 Mca823-a824 Mna825-a826 Mca827 Soa828-a82b Mna82c Noa830-a835 Soa836-a837 Sca838
  Soa839 Loa840-a873 Poa874-a877 Mca880-a881 Loa882-a8b3 Mca8b4-a8c3 Mna8c4-a8c5 Poa8ce-a8cf
  Mna8e0-a8f1 Loa8f2-a8f7 Poa8f8-a8fa Loa8fb Poa8fc Loa8fd-a8fe Mna8ff Loa90a-a925 Mna926-a92d
  Poa92e-a92f Loa930-a946 Mna947-a951 Mca952-a953 Poa95f Loa960-a97c Mna980-a982 Mca983
  Loa984-a9b2 Mna9b3 Mca9b4-a9b5 Mna9b6-a9b9 Mca9ba-a9bb Mna9bc-a9bd Mca9be-a9c0 Poa9c1-a9cd
  Lma9cf Poa9de-a9df Loa9e0-a9e4 Mna9e5 Lma9e6 Loa9e7-a9ef Loa9fa-a9fe Loaa00-aa28 Mnaa29-aa2e
  Mcaa2f-aa30 Mnaa31-aa32 Mcaa33-aa34 Mnaa35-aa36 Loaa40-aa42 Mnaa43 Loaa44-aa4b Mnaa4c Mcaa4d
  Poaa5c-aa5f Loaa60-aa6f Lmaa70 Loaa71-aa76 Soaa77-aa79 Loaa7a Mcaa7b Mnaa7c Mcaa7d
  Loaa7e-aaaf Mnaab0 Loaab1 Mnaab2-aab4 Loaab5-aab6 Mnaab7-aab8 Loaab9-aabd Mnaabe-aabf Loaac0
  Mnaac1 Loaac2 Loaadb-aadc Lmaadd Poaade-aadf Loaae0-aaea Mcaaeb Mnaaec-aaed Mcaaee-aaef
  Poaaf0-aaf1 Loaaf2 Lmaaf3-aaf4 Mcaaf5 Mnaaf6 Loab01-ab06 Loab09-ab0e Loab11-ab16 Loab20-ab26
  Loab28-ab2e Llab30-ab5a Skab5b Lmab5c-ab5f Llab60-ab68 Lmab69 Skab6a-ab6b Llab70-abbf
  Loabc0-abe2 Mcabe3-abe4 Mnabe5 Mcabe6-abe7 Mnabe8 Mcabe9-abea Poabeb Mcabec Mnabed
  Loac00-d7a3 Lod7b0-d7c6 Lod7cb-d7fb Coe000-f8ff Lof900-fa6d Lofa70-fad9 Llfb00-fb06
  Llfb13-fb17 Lofb1d Mnfb1e Lofb1f-fb28 Smfb29 Lofb2a-fb36 Lofb38-fb3c Lofb3e Lofb40-fb41
  Lofb43-fb44 Lofb46-fbb1 Skfbb2-fbc2 Sofbc3-fbd2 Lofbd3-fd3d Pefd3e Psfd3f Sofd40-fd4f
  Lofd50-fd8f Sofd90-fd91 Lofd92-fdc7 Sofdc8-fdcf Lofdf0-fdfb Scfdfc Sofdfd-fdff Mnfe00-fe0f
  Pofe10-fe16 Psfe17 Pefe18 Pofe19 Mnfe20-fe2f Pofe30 Pdfe31-fe32 Pcfe33-fe34 Psfe35 Pefe36
  Psfe37 Pefe38 Psfe39 Pefe3a Psfe3b Pefe3c Psfe3d Pefe3e Psfe3f Pefe40 Psfe41 Pefe42 Psfe43
  Pefe44 Pofe45-fe46 Psfe47 Pefe48 Pofe49-fe4c Pcfe4d-fe4f Pofe50-fe52 Pofe54-fe57 Pdfe58
  Psfe59 Pefe5a Psfe5b Pefe5c Psfe5d Pefe5e Pofe5f-fe61 Smfe62 Pdfe63 Smfe64-fe66 Pofe68 Scfe69
  Pofe6a-fe6b Lofe70-fe74 Lofe76-fefc Cffeff Poff01-ff03 Scff04 Poff05-ff07 Psff08 Peff09
  Poff0a Smff0b Poff0c Pdff0d Poff0e-ff0f Poff1a-ff1b Smff1c-ff1e Poff1f-ff20 Luff21-ff3a
  Psff3b Poff3c Peff3d Skff3e Pcff3f Skff40 Llff41-ff5a Psff5b Smff5c Peff5d Smff5e Psff5f
  Peff60 Poff61 Psff62 Peff63 Poff64-ff65 Loff66-ff6f Lmff70 Loff71-ff9d Lmff9e-ff9f
  Loffa0-ffbe Loffc2-ffc7 Loffca-ffcf Loffd2-ffd7 Loffda-ffdc Scffe0-ffe1 Smffe2 Skffe3 Soffe4
  Scffe5-ffe6 Soffe8 Smffe9-ffec Soffed-ffee Cffff9-fffb Sofffc-fffd Lo10000-1000b
  Lo1000d-10026 Lo10028-1003a Lo1003c-1003d Lo1003f-1004d Lo10050-1005d Lo10080-100fa
  Po10100-10102 No10107-10133 So10137-1013f Nl10140-10174 No10175-10178 So10179-10189
  No1018a-1018b So1018c-1018e So10190-1019c So101a0 So101d0-101fc Mn101fd Lo10280-1029c
  Lo102a0-102d0 Mn102e0 No102e1-102fb Lo10300-1031f No10320-10323 Lo1032d-10340 Nl10341
  Lo10342-10349 Nl1034a Lo10350-10375 Mn10376-1037a Lo10380-1039d Po1039f Lo103a0-103c3
  Lo103c8-103cf Po103d0 Nl103d1-103d5 Lu10400-10427 Ll10428-1044f Lo10450-1049d Lu104b0-104d3
  Ll104d8-104fb Lo10500-10527 Lo10530-10563 Po1056f Lu10570-1057a Lu1057c-1058a Lu1058c-10592
  Lu10594-10595 Ll10597-105a1 Ll105a3-105b1 Ll105b3-105b9 Ll105bb-105bc Lo105c0-105f3
  Lo10600-10736 Lo10740-10755 Lo10760-10767 Lm10780-10785 Lm10787-107b0 Lm107b2-107ba
  Lo10800-10805 Lo10808 Lo1080a-10835 Lo10837-10838 Lo1083c Lo1083f-10855 Po10857 No10858-1085f
  Lo10860-10876 So10877-10878 No10879-1087f Lo10880-1089e No108a7-108af Lo108e0-108f2
  Lo108f4-108f5 No108fb-108ff Lo10900-10915 No10916-1091b Po1091f Lo10920-10939 Po1093f
  Lo10940-10959 Lo10980-109b7 No109bc-109bd Lo109be-109bf No109c0-109cf No109d2-109ff Lo10a00
  Mn10a01-10a03 Mn10a05-10a06 Mn10a0c-10a0f Lo10a10-10a13 Lo10a15-10a17 Lo10a19-10a35
  Mn10a38-10a3a Mn10a3f No10a40-10a48 Po10a50-10a58 Lo10a60-10a7c No10a7d-10a7e Po10a7f
  Lo10a80-10a9c No10a9d-10a9f Lo10ac0-10ac7 So10ac8 Lo10ac9-10ae4 Mn10ae5-10ae6 No10aeb-10aef
  Po10af0-10af6 Lo10b00-10b35 Po10b39-10b3f Lo10b40-10b55 No10b58-10b5f Lo10b60-10b72
  No10b78-10b7f Lo10b80-10b91 Po10b99-10b9c No10ba9-10baf Lo10c00-10c48 Lu10c80-10cb2
  Ll10cc0-10cf2 No10cfa-10cff Lo10d00-10d23 Mn10d24-10d27 Lo10d4a-10d4d Lm10d4e Lo10d4f
  Lu10d50-10d65 Mn10d69-10d6d Pd10d6e Lm10d6f Ll10d70-10d85 Sm10d8e-10d8f No10e60-10e7e
  Lo10e80-10ea9 Mn10eab-10eac Pd10ead Lo10eb0-10eb1 Lo10ec2-10ec4 Lm10ec5 Lo10ec6-10ec7 Po10ed0
  So10ed1-10ed8 Mn10efa-10eff Lo10f00-10f1c No10f1d-10f26 Lo10f27 Lo10f30-10f45 Mn10f46-10f50
  No10f51-10f54 Po10f55-10f59 Lo10f70-10f81 Mn10f82-10f85 Po10f86-10f89 Lo10fb0-10fc4
  No10fc5-10fcb Lo10fe0-10ff6 Mc11000 Mn11001 Mc11002 Lo11003-11037 Mn11038-11046 Po11047-1104d
  No11052-11065 Mn11070 Lo11071-11072 Mn11073-11074 Lo11075 Mn1107f-11081 Mc11082 Lo11083-110af
  Mc110b0-110b2 Mn110b3-110b6 Mc110b7-110b8 Mn110b9-110ba Po110bb-110bc Cf110bd Po110be-110c1
  Mn110c2 Cf110cd Lo110d0-110e8 Mn11100-11102 Lo11103-11126 Mn11127-1112b Mc1112c Mn1112d-11134
  Po11140-11143 Lo11144 Mc11145-11146 Lo11147 Lo11150-11172 Mn11173 Po11174-11175 Lo11176
  Mn11180-11181 Mc11182 Lo11183-111b2 Mc111b3-111b5 Mn111b6-111be Mc111bf-111c0 Lo111c1-111c4
  Po111c5-111c8 Mn111c9-111cc Po111cd Mc111ce Mn111cf Lo111da Po111db Lo111dc Po111dd-111df
  No111e1-111f4 Lo11200-11211 Lo11213-1122b Mc1122c-1122e Mn1122f-11231 Mc11232-11233 Mn11234
  Mc11235 Mn11236-11237 Po11238-1123d Mn1123e Lo1123f-11240 Mn11241 Lo11280-11286 Lo11288
  Lo1128a-1128d Lo1128f-1129d Lo1129f-112a8 Po112a9 Lo112b0-112de Mn112df Mc112e0-112e2
  Mn112e3-112ea Mn11300-11301 Mc11302-11303 Lo11305-1130c Lo1130f-11310 Lo11313-11328
  Lo1132a-11330 Lo11332-11333 Lo11335-11339 Mn1133b-1133c Lo1133d Mc1133e-1133f Mn11340
  Mc11341-11344 Mc11347-11348 Mc1134b-1134d Lo11350 Mc11357 Lo1135d-11361 Mc11362-11363
  Mn11366-1136c Mn11370-11374 Lo11380-11389 Lo1138b Lo1138e Lo11390-113b5 Lo113b7 Mc113b8-113ba
  Mn113bb-113c0 Mc113c2 Mc113c5 Mc113c7-113ca Mc113cc-113cd Mn113ce Mc113cf Mn113d0 Lo113d1
  Mn113d2 Lo113d3 Po113d4-113d5 Po113d7-113d8 Mn113e1-113e2 Lo11400-11434 Mc11435-11437
  Mn11438-1143f Mc11440-11441 Mn11442-11444 Mc11445 Mn11446 Lo11447-1144a Po1144b-1144f
  Po1145a-1145b Po1145d Mn1145e Lo1145f-11461 Lo11480-114af Mc114b0-114b2 Mn114b3-114b8 Mc114b9
  Mn114ba Mc114bb-114be Mn114bf-114c0 Mc114c1 Mn114c2-114c3 Lo114c4-114c5 Po114c6 Lo114c7
  Lo11580-115ae Mc115af-115b1 Mn115b2-115b5 Mc115b8-115bb Mn115bc-115bd Mc115be Mn115bf-115c0
  Po115c1-115d7 Lo115d8-115db Mn115dc-115dd Lo11600-1162f Mc11630-11632 Mn11633-1163a
  Mc1163b-1163c Mn1163d Mc1163e Mn1163f-11640 Po11641-11643 Lo11644 Po11660-1166c Lo11680-116aa
  Mn116ab Mc116ac Mn116ad Mc116ae-116af Mn116b0-116b5 Mc116b6 Mn116b7 Lo116b8 Po116b9
  Lo11700-1171a Mn1171d Mc1171e Mn1171f Mc11720-11721 Mn11722-11725 Mc11726 Mn11727-1172b
  No1173a-1173b Po1173c-1173e So1173f Lo11740-11746 Lo11800-1182b Mc1182c-1182e Mn1182f-11837
  Mc11838 Mn11839-1183a Po1183b Lu118a0-118bf Ll118c0-118df No118ea-118f2 Lo118ff-11906 Lo11909
  Lo1190c-11913 Lo11915-11916 Lo11918-1192f Mc11930-11935 Mc11937-11938 Mn1193b-1193c Mc1193d
  Mn1193e Lo1193f Mc11940 Lo11941 Mc11942 Mn11943 Po11944-11946 Lo119a0-119a7 Lo119aa-119d0
  Mc119d1-119d3 Mn119d4-119d7 Mn119da-119db Mc119dc-119df Mn119e0 Lo119e1 Po119e2 Lo119e3
  Mc119e4 Lo11a00 Mn11a01-11a0a Lo11a0b-11a32 Mn11a33-11a38 Mc11a39 Lo11a3a Mn11a3b-11a3e
  Po11a3f-11a46 Mn11a47 Lo11a50 Mn11a51-11a56 Mc11a57-11a58 Mn11a59-11a5b Lo11a5c-11a89
  Mn11a8a-11a96 Mc11a97 Mn11a98-11a99 Po11a9a-11a9c Lo11a9d Po11a9e-11aa2 Lo11ab0-11af8
  Po11b00-11b09 Mn11b60 Mc11b61 Mn11b62-11b64 Mc11b65 Mn11b66 Mc11b67 Lo11bc0-11be0 Po11be1
  Lo11c00-11c08 Lo11c0a-11c2e Mc11c2f Mn11c30-11c36 Mn11c38-11c3d Mc11c3e Mn11c3f Lo11c40
  Po11c41-11c45 No11c5a-11c6c Po11c70-11c71 Lo11c72-11c8f Mn11c92-11ca7 Mc11ca9 Mn11caa-11cb0
  Mc11cb1 Mn11cb2-11cb3 Mc11cb4 Mn11cb5-11cb6 Lo11d00-11d06 Lo11d08-11d09 Lo11d0b-11d30
  Mn11d31-11d36 Mn11d3a Mn11d3c-11d3d Mn11d3f-11d45 Lo11d46 Mn11d47 Lo11d60-11d65 Lo11d67-11d68
  Lo11d6a-11d89 Mc11d8a-11d8e Mn11d90-11d91 Mc11d93-11d94 Mn11d95 Mc11d96 Mn11d97 Lo11d98
  Lo11db0-11dd8 Lm11dd9 Lo11dda-11ddb Lo11ee0-11ef2 Mn11ef3-11ef4 Mc11ef5-11ef6 Po11ef7-11ef8
  Mn11f00-11f01 Lo11f02 Mc11f03 Lo11f04-11f10 Lo11f12-11f33 Mc11f34-11f35 Mn11f36-11f3a
  Mc11f3e-11f3f Mn11f40 Mc11f41 Mn11f42 Po11f43-11f4f Mn11f5a Lo11fb0 No11fc0-11fd4
  So11fd5-11fdc Sc11fdd-11fe0 So11fe1-11ff1 Po11fff Lo12000-12399 Nl12400-1246e Po12470-12474
  Lo12480-12543 Lo12f90-12ff0 Po12ff1-12ff2 Lo13000-1342f Cf13430-1343f Mn13440 Lo13441-13446
  Mn13447-13455 Lo13460-143fa Lo14400-14646 Lo16100-1611d Mn1611e-16129 Mc1612a-1612c
  Mn1612d-1612f Lo16800-16a38 Lo16a40-16a5e Po16a6e-16a6f Lo16a70-16abe Lo16ad0-16aed
  Mn16af0-16af4 Po16af5 Lo16b00-16b2f Mn16b30-16b36 Po16b37-16b3b So16b3c-16b3f Lm16b40-16b43
  Po16b44 So16b45 No16b5b-16b61 Lo16b63-16b77 Lo16b7d-16b8f Lm16d40-16d42 Lo16d43-16d6a
  Lm16d6b-16d6c Po16d6d-16d6f Lu16e40-16e5f Ll16e60-16e7f No16e80-16e96 Po16e97-16e9a
  Lu16ea0-16eb8 Ll16ebb-16ed3 Lo16f00-16f4a Mn16f4f Lo16f50 Mc16f51-16f87 Mn16f8f-16f92
  Lm16f93-16f9f Lm16fe0-16fe1 Po16fe2 Lm16fe3 Mn16fe4 Mc16ff0-16ff1 Lm16ff2-16ff3 Nl16ff4-16ff6
  Lo17000-18cd5 Lo18cff-18d1e Lo18d80-18df2 Lm1aff0-1aff3 Lm1aff5-1affb Lm1affd-1affe
  Lo1b000-1b122 Lo1b132 Lo1b150-1b152 Lo1b155 Lo1b164-1b167 Lo1b170-1b2fb Lo1bc00-1bc6a
  Lo1bc70-1bc7c Lo1bc80-1bc88 Lo1bc90-1bc99 So1bc9c Mn1bc9d-1bc9e Po1bc9f Cf1bca0-1bca3
  So1cc00-1ccef So1ccfa-1ccfc So1cd00-1ceb3 So1ceba-1ced0 So1cee0-1ceef Sm1cef0 Mn1cf00-1cf2d
  Mn1cf30-1cf46 So1cf50-1cfc3 So1d000-1d0f5 So1d100-1d126 So1d129-1d164 Mc1d165-1d166
  Mn1d167-1d169 So1d16a-1d16c Mc1d16d-1d172 Cf1d173-1d17a Mn1d17b-1d182 So1d183-1d184
  Mn1d185-1d18b So1d18c-1d1a9 Mn1d1aa-1d1ad So1d1ae-1d1ea So1d200-1d241 Mn1d242-1d244 So1d245
  No1d2c0-1d2d3 No1d2e0-1d2f3 So1d300-1d356 No1d360-1d378 Lu1d400-1d419 Ll1d41a-1d433
  Lu1d434-1d44d Ll1d44e-1d454 Ll1d456-1d467 Lu1d468-1d481 Ll1d482-1d49b Lu1d49c Lu1d49e-1d49f
  Lu1d4a2 Lu1d4a5-1d4a6 Lu1d4a9-1d4ac Lu1d4ae-1d4b5 Ll1d4b6-1d4b9 Ll1d4bb Ll1d4bd-1d4c3
  Ll1d4c5-1d4cf Lu1d4d0-1d4e9 Ll1d4ea-1d503 Lu1d504-1d505 Lu1d507-1d50a Lu1d50d-1d514
  Lu1d516-1d51c Ll1d51e-1d537 Lu1d538-1d539 Lu1d53b-1d53e Lu1d540-1d544 Lu1d546 Lu1d54a-1d550
  Ll1d552-1d56b Lu1d56c-1d585 Ll1d586-1d59f Lu1d5a0-1d5b9 Ll1d5ba-1d5d3 Lu1d5d4-1d5ed
  Ll1d5ee-1d607 Lu1d608-1d621 Ll1d622-1d63b Lu1d63c-1d655 Ll1d656-1d66f Lu1d670-1d689
  Ll1d68a-1d6a5 Lu1d6a8-1d6c0 Sm1d6c1 Ll1d6c2-1d6da Sm1d6db Ll1d6dc-1d6e1 Lu1d6e2-1d6fa Sm1d6fb
  Ll1d6fc-1d714 Sm1d715 Ll1d716-1d71b Lu1d71c-1d734 Sm1d735 Ll1d736-1d74e Sm1d74f Ll1d750-1d755
  Lu1d756-1d76e Sm1d76f Ll1d770-1d788 Sm1d789 Ll1d78a-1d78f Lu1d790-1d7a8 Sm1d7a9 Ll1d7aa-1d7c2
  Sm1d7c3 Ll1d7c4-1d7c9 Lu1d7ca Ll1d7cb So1d800-1d9ff Mn1da00-1da36 So1da37-1da3a Mn1da3b-1da6c
  So1da6d-1da74 Mn1da75 So1da76-1da83 Mn1da84 So1da85-1da86 Po1da87-1da8b Mn1da9b-1da9f
  Mn1daa1-1daaf Ll1df00-1df09 Lo1df0a Ll1df0b-1df1e Ll1df25-1df2a Mn1e000-1e006 Mn1e008-1e018
  Mn1e01b-1e021 Mn1e023-1e024 Mn1e026-1e02a Lm1e030-1e06d Mn1e08f Lo1e100-1e12c Mn1e130-1e136
  Lm1e137-1e13d Lo1e14e So1e14f Lo1e290-1e2ad Mn1e2ae Lo1e2c0-1e2eb Mn1e2ec-1e2ef Sc1e2ff
  Lo1e4d0-1e4ea Lm1e4eb Mn1e4ec-1e4ef Lo1e5d0-1e5ed Mn1e5ee-1e5ef Lo1e5f0 Po1e5ff Lo1e6c0-1e6de
  Lo1e6e0-1e6e2 Mn1e6e3 Lo1e6e4-1e6e5 Mn1e6e6 Lo1e6e7-1e6ed Mn1e6ee-1e6ef Lo1e6f0-1e6f4 Mn1e6f5
  Lo1e6fe Lm1e6ff Lo1e7e0-1e7e6 Lo1e7e8-1e7eb Lo1e7ed-1e7ee Lo1e7f0-1e7fe Lo1e800-1e8c4
  No1e8c7-1e8cf Mn1e8d0-1e8d6 Lu1e900-1e921 Ll1e922-1e943 Mn1e944-1e94a Lm1e94b Po1e95e-1e95f
  No1ec71-1ecab So1ecac No1ecad-1ecaf Sc1ecb0 No1ecb1-1ecb4 No1ed01-1ed2d So1ed2e No1ed2f-1ed3d
  Lo1ee00-1ee03 Lo1ee05-1ee1f Lo1ee21-1ee22 Lo1ee24 Lo1ee27 Lo1ee29-1ee32 Lo1ee34-1ee37 Lo1ee39
  Lo1ee3b Lo1ee42 Lo1ee47 Lo1ee49 Lo1ee4b Lo1ee4d-1ee4f Lo1ee51-1ee52 Lo1ee54 Lo1ee57 Lo1ee59
  Lo1ee5b Lo1ee5d Lo1ee5f Lo1ee61-1ee62 Lo1ee64 Lo1ee67-1ee6a Lo1ee6c-1ee72 Lo1ee74-1ee77
  Lo1ee79-1ee7c Lo1ee7e Lo1ee80-1ee89 Lo1ee8b-1ee9b Lo1eea1-1eea3 Lo1eea5-1eea9 Lo1eeab-1eebb
  Sm1eef0-1eef1 So1f000-1f02b So1f030-1f093 So1f0a0-1f0ae So1f0b1-1f0bf So1f0c1-1f0cf
  So1f0d1-1f0f5 No1f100-1f10c So1f10d-1f1ad So1f1e6-1f202 So1f210-1f23b So1f240-1f248
  So1f250-1f251 So1f260-1f265 So1f300-1f3fa Sk1f3fb-1f3ff So1f400-1f6d8 So1f6dc-1f6ec
  So1f6f0-1f6fc So1f700-1f7d9 So1f7e0-1f7eb So1f7f0 So1f800-1f80b So1f810-1f847 So1f850-1f859
  So1f860-1f887 So1f890-1f8ad So1f8b0-1f8bb So1f8c0-1f8c1 Sm1f8d0-1f8d8 So1f900-1fa57
  So1fa60-1fa6d So1fa70-1fa7c So1fa80-1fa8a So1fa8e-1fac6 So1fac8 So1facd-1fadc So1fadf-1faea
  So1faef-1faf8 So1fb00-1fb92 So1fb94-1fbef So1fbfa Lo20000-2a6df Lo2a700-2b81d Lo2b820-2cead
  Lo2ceb0-2ebe0 Lo2ebf0-2ee5d Lo2f800-2fa1d Lo30000-3134a Lo31350-33479 Cfe0001 Cfe0020-e007f
  Mne0100-e01ef Cof0000-ffffd Co100000-10fffd"

/-- The table that `tableText` writes. -/
def table : List (Nat × Nat × Category) :=
  (tableEntries tableText).filterMap readItem?

/-- The general category of a character. -/
def ofChar (c : Char) : Category :=
  if decimalNumbers.contains c then .decimalNumber
  else (search table c.toNat).getD .unassigned

/-- The characters of some categories. -/
def chars (members : List Category) : RangeTable :=
  let listed := table.filter fun (_, _, category) => members.contains category
  let found : RangeTable := .ofRanges (listed.map fun (first, last, _) => (first, last))
  let digits := if members.contains .decimalNumber then decimalNumbers else .empty
  let all : RangeTable := .ofRanges (table.map fun (first, last, _) => (first, last))
  let rest := if members.contains .unassigned then (decimalNumbers.union all).complement
    else .empty
  (found.union digits).union rest

end Category

end FieldChecks
