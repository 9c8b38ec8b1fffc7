set_option autoImplicit false

/-!
What the rules for labels tell of characters, as version 13.0 has it. Characters that came later belong to nothing.
-/

namespace JoinTrust.Url.Domain

/-- Marks, which no label begins with. -/
def markLines : List String :=
  ["300-36f 483-489 591-5bd 5bf 5c1-5c2 5c4-5c5 5c7 610-61a 64b-65f 670 6d6-6dc 6df-6e4 6e7-6e8 6ea-6ed 711",
   "730-74a 7a6-7b0 7eb-7f3 7fd 816-819 81b-823 825-827 829-82d 859-85b 8d3-903 93a-93c 93e-94f 951-957",
   "962-963 981-983 9bc 9be-9cd 9d7 9e2-9e3 9fe-a03 a3c-a51 a70-a71 a75 a81-a83 abc abe-acd ae2-ae3 afa-b03",
   "b3c b3e-b57 b62-b63 b82 bbe-bcd bd7 c00-c04 c3e-c56 c62-c63 c81-c83 cbc cbe-cd6 ce2-ce3 d00-d03 d3b-d3c",
   "d3e-d4d d57 d62-d63 d81-d83 dca-ddf df2-df3 e31 e34-e3a e47-e4e eb1 eb4-ebc ec8-ecd f18-f19 f35 f37 f39",
   "f3e-f3f f71-f84 f86-f87 f8d-fbc fc6 102b-103e 1056-1059 105e-1060 1062-1064 1067-106d 1071-1074",
   "1082-108d 108f 109a-109d 135d-135f 1712-1714 1732-1734 1752-1753 1772-1773 17b6-17d3 17dd 1885-1886 18a9",
   "1920-193b 1a17-1a1b 1a55-1a7f 1ab0-1ac0 1b00-1b04 1b34-1b44 1b6b-1b73 1b80-1b82 1ba1-1bad 1be6-1bf3",
   "1c24-1c37 1cd0-1cd2 1cd4-1ce8 1ced 1cf4 1cf7-1cf9 1dc0-1df9 1dfb-1dff 20d0-20f0 2cef-2cf1 2d7f 2de0-2dff",
   "302a-302f 3099-309a a66f-a672 a674-a67d a69e-a69f a6f0-a6f1 a802 a806 a80b a823-a827 a82c a880-a881",
   "a8b4-a8c5 a8e0-a8f1 a8ff a926-a92d a947-a953 a980-a983 a9b3-a9c0 a9e5 aa29-aa36 aa43 aa4c-aa4d aa7b-aa7d",
   "aab0 aab2-aab4 aab7-aab8 aabe-aabf aac1 aaeb-aaef aaf5-aaf6 abe3-abea abec-abed fb1e fe20-fe2f 101fd",
   "102e0 10376-1037a 10a01-10a0f 10a38-10a3f 10ae5-10ae6 10d24-10d27 10eab-10eac 10f46-10f50 11000-11002",
   "11038-11046 1107f-11082 110b0-110ba 11100-11102 11127-11134 11145-11146 11173 11180-11182 111b3-111c0",
   "111c9-111cc 111ce-111cf 1122c-11237 1123e 112df-112ea 11300-11303 1133b-1133c 1133e-1134d 11357",
   "11362-11374 11435-11446 1145e 114b0-114c3 115af-115c0 115dc-115dd 11630-11640 116ab-116b7 1171d-1172b",
   "1182c-1183a 11930-1193e 11940 11942-11943 119d1-119e0 119e4 11a01-11a0a 11a33-11a39 11a3b-11a3e 11a47",
   "11a51-11a5b 11a8a-11a99 11c2f-11c3f 11c92-11cb6 11d31-11d45 11d47 11d8a-11d97 11ef3-11ef6 16af0-16af4",
   "16b30-16b36 16f4f 16f51-16f92 16fe4-16ff1 1bc9d-1bc9e 1d165-1d169 1d16d-1d182 1d185-1d18b 1d1aa-1d1ad",
   "1d242-1d244 1da00-1da36 1da3b-1da6c 1da75 1da84 1da9b-1daaf 1e000-1e02a 1e130-1e136 1e2ec-1e2ef",
   "1e8d0-1e8d6 1e944-1e94a"]

/-- Signs that join the consonants around them. -/
def viramaLines : List String :=
  ["94d 9cd a4d acd b4d bcd c4d ccd d3b-d3c d4d dca e3a eba f84 1039-103a 1714 1734 17d2 1a60 1b44 1baa-1bab",
   "1bf2-1bf3 2d7f a806 a82c a8c4 a953 a9c0 aaf6 abed 10a3f 11046 1107f 110b9 11133-11134 111c0 11235 112ea",
   "1134d 11442 114c2 115bf 1163f 116b6 1172b 11839 1193d-1193e 119e0 11a34 11a47 11a99 11c3f 11d44-11d45",
   "11d97"]

/-- Characters that join on to the one behind them. -/
def leadingLines : List String :=
  ["620 626 628 62a-62e 633-63f 641-647 649-64a 66e-66f 679-687 69a-6bf 6c1-6c2 6cc 6ce 6d0-6d1 6fa-6fc 6ff",
   "712-714 71a-71d 71f-727 729 72b 72d-72e 74e-758 75c-766 850-853 855 8a0 8a2-8a9 1807 1820-1877 1887-18a8",
   "18aa a840-a872"]

/-- Characters that join on to the one before them. -/
def trailingLines : List String :=
  ["620 622-63f 641-64a 66e-66f 671-673 679-6d3 6d5 6ee-6ef 6fa-6fc 6ff 710 712-72f 74d-766 850-855 8a0",
   "8a2-8ac 1807 1820-1877 1887-18a8 18aa a840-a871"]

/-- Directions: from the right, Arabic digits, other digits, neutral signs, marks, and what fits nowhere. Every other
character is written from the left. -/
def sideLines : List String :=
  ["0-8:o 9-d:x e-1b:o 1c-20:x 21-2f:o 30-39:n 3a-40:o 5b-60:o 7b-d7:o f7:o 2b9-2ba:o 2c2-2cf:o 2d2-2ed:o",
   "2ef-2ff:o 300-36f:m 375:o 3f6:o 483-489:m 58a-58f:o 591-5bd:m 5be:r 5bf:m 5c0:r 5c1-5c2:m 5c3:r",
   "5c4-5c5:m 5c6:r 5c7:m 5d0-5f4:r 606-607:o 608:r 609-60a:o 60b:r 60c:o 60d:r 60e-60f:o 610-61a:m 61b:r",
   "61d:x 61e-64a:r 64b-65f:m 660-669:a 66a:o 66b-66c:a 66d-66f:r 670:m 671-6d5:r 6d6-6dc:m 6de:o 6df-6e4:m",
   "6e5-6e6:r 6e7-6e8:m 6e9:o 6ea-6ed:m 6ee-6ef:r 6f0-6f9:n 6fa-710:r 711:m 712-72f:r 730-74a:m 74d-7a5:r",
   "7a6-7b0:m 7b1-7ea:r 7eb-7f3:m 7f4-7f5:r 7f6-7f9:o 7fa:r 7fd:m 7fe-815:r 816-819:m 81a:r 81b-823:m 824:r",
   "825-827:m 828:r 829-82d:m 830-858:r 859-85b:m 85e-86a:r 870-89f:x 8a0-8b4:r 8b5:x 8b6-8c7:r 8c8-8d2:x",
   "8d3-902:m 93a:m 93c:m 941-948:m 94d:m 951-957:m 962-963:m 981:m 9bc:m 9c1-9c4:m 9cd:m 9e2-9e3:m",
   "9f2-9f3:o 9fb:o 9fe-a02:m a3c:m a41-a51:m a70-a71:m a75:m a81-a82:m abc:m ac1-ac8:m acd:m ae2-ae3:m",
   "af1:o afa-b01:m b3c:m b3f:m b41-b44:m b4d-b56:m b62-b63:m b82:m bc0:m bcd:m bf3-bfa:o c00:m c04:m c3c:x",
   "c3e-c40:m c46-c56:m c5d:x c62-c63:m c78-c7e:o c81:m cbc:m ccc-ccd:m cdd:x ce2-ce3:m cf3:x d00-d01:m",
   "d3b-d3c:m d41-d44:m d4d:m d62-d63:m d81:m dca:m dd2-dd6:m e31:m e34-e3a:m e3f:o e47-e4e:m eb1:m",
   "eb4-ebc:m ec8-ecd:m ece:x f18-f19:m f35:m f37:m f39:m f3a-f3d:o f71-f7e:m f80-f84:m f86-f87:m f8d-fbc:m",
   "fc6:m 102d-1030:m 1032-1037:m 1039-103a:m 103d-103e:m 1058-1059:m 105e-1060:m 1071-1074:m 1082:m",
   "1085-1086:m 108d:m 109d:m 135d-135f:m 1390-1399:o 1400:o 169b-169c:o 170d:x 1712-1714:m 1715-171f:x",
   "1732-1734:m 1752-1753:m 1772-1773:m 17b7-17bd:m 17c6:m 17c9-17d3:m 17db:o 17dd:m 17f0-180a:o 1885-1886:m",
   "18a9:m 1920-1922:m 1927-1928:m 1932:m 1939-193b:m 1940-1945:o 19de-19ff:o 1a17-1a18:m 1a1b:m 1a56:m",
   "1a58-1a60:m 1a62:m 1a65-1a6c:m 1a73-1a7f:m 1ab0-1ac0:m 1ac1-1ace:x 1b00-1b03:m 1b34:m 1b36-1b3a:m 1b3c:m",
   "1b42:m 1b4c:x 1b6b-1b73:m 1b7d-1b7e:x 1b80-1b81:m 1ba2-1ba5:m 1ba8-1ba9:m 1bab-1bad:m 1be6:m 1be8-1be9:m",
   "1bed:m 1bef-1bf1:m 1c2c-1c33:m 1c36-1c37:m 1cd0-1cd2:m 1cd4-1ce0:m 1ce2-1ce8:m 1ced:m 1cf4:m 1cf8-1cf9:m",
   "1dc0-1df9:m 1dfa:x 1dfb-1dff:m 200c-20bf:o 20c0:x 20d0-20f0:m 2104-214d:o 218a-2335:o 237b-2394:o",
   "2396-26ab:o 26ad-27ff:o 2900-2bff:o 2c5f:x 2ce5-2cea:o 2cef-2cf1:m 2cf9-2cff:o 2d7f:m 2de0-2dff:m",
   "2e00-2e52:o 2e53-2e5d:x 2e80-3004:o 3008-3020:o 302a-302d:m 3030:o 3037:o 303d-303f:o 3099-309a:m 30a0:o",
   "30fb:o 31c0-31e3:o 4dc0-4dff:o 9ffd-9fff:x a490-a4c6:o a60d-a60f:o a66f-a672:m a673:o a674-a67d:m",
   "a67e-a67f:o a69e-a69f:m a6f0-a6f1:m a700-a721:o a788:o a7c1:x a7d1-a7d9:x a802:m a806:m a80b:m",
   "a825-a826:m a828-a82b:o a82c:m a838-a839:o a874-a877:o a8c4-a8c5:m a8e0-a8f1:m a8ff:m a926-a92d:m",
   "a947-a951:m a980-a982:m a9b3:m a9b6-a9b9:m a9bc-a9bd:m a9e5:m aa29-aa2e:m aa31-aa32:m aa35-aa36:m aa43:m",
   "aa4c:m aa7c:m aab0:m aab2-aab4:m aab7-aab8:m aabe-aabf:m aac1:m aaec-aaed:m aaf6:m ab6a-ab6b:o abe5:m",
   "abe8:m abed:m fb1e:m fbb2-fbc1:r fbc2:x fd3e-fd3f:o fd40-fdcf:x fdfd:o fdfe-fdff:x fe20-fe2f:m",
   "fe45-fe46:o fe73:r 10101:o 10140-1018c:o 10190-101a0:o 101fd:m 102e0:m 102e1-102fb:n 10376-1037a:m",
   "10597-105bc:x 10780:x 10800-1091b:r 1091f:o 10920-10a00:r 10a01-10a0f:m 10a10-10a35:r 10a38-10a3f:m",
   "10a40-10ae4:r 10ae5-10ae6:m 10aeb-10b35:r 10b39-10b3f:o 10b40-10d23:r 10d24-10d27:m 10d30-10e7e:a",
   "10e80-10ea9:r 10eab-10eac:m 10ead-10eb1:r 10efd-10eff:x 10f00-10f45:r 10f46-10f50:m 10f51-10f59:r",
   "10f70-10f89:x 10fb0-10ff6:r 11001:m 11038-11046:m 11052-11065:o 11070-11075:x 1107f-11081:m",
   "110b3-110b6:m 110b9-110ba:m 110c2:x 11100-11102:m 11127-1112b:m 1112d-11134:m 11173:m 11180-11181:m",
   "111b6-111be:m 111c9-111cc:m 111cf:m 1122f-11231:m 11234:m 11236-11237:m 1123e:m 1123f-11241:x 112df:m",
   "112e3-112ea:m 11300-11301:m 1133b-1133c:m 11340:m 11366-11374:m 11438-1143f:m 11442-11444:m 11446:m",
   "1145e:m 114b3-114b8:m 114ba:m 114bf-114c0:m 114c2-114c3:m 115b2-115b5:m 115bc-115bd:m 115bf-115c0:m",
   "115dc-115dd:m 11633-1163a:m 1163d:m 1163f-11640:m 11660-1166c:o 116ab:m 116ad:m 116b0-116b5:m 116b7:m",
   "116b9:x 1171d-1171f:m 11722-11725:m 11727-1172b:m 11740-11746:x 1182f-11837:m 11839-1183a:m",
   "1193b-1193c:m 1193e:m 11943:m 119d4-119db:m 119e0:m 11a01-11a06:m 11a09-11a0a:m 11a33-11a38:m",
   "11a3b-11a3e:m 11a47:m 11a51-11a56:m 11a59-11a5b:m 11a8a-11a96:m 11a98-11a99:m 11ab0-11abf:x",
   "11b00-11b09:x 11c30-11c3d:m 11c92-11ca7:m 11caa-11cb0:m 11cb2-11cb3:m 11cb5-11cb6:m 11d31-11d45:m",
   "11d47:m 11d90-11d91:m 11d95:m 11d97:m 11ef3-11ef4:m 11f00-11f59:x 11fd5-11ff1:o 12f90-12ff2:x",
   "1342f-13455:x 16a70-16ac9:x 16af0-16af4:m 16b30-16b36:m 16f4f:m 16f8f-16f92:m 16fe2:o 16fe4:m",
   "1aff0-1affe:x 1b11f-1b132:x 1b155:x 1bc9d-1bc9e:m 1cf00-1cfc3:x 1d167-1d169:m 1d17b-1d182:m",
   "1d185-1d18b:m 1d1aa-1d1ad:m 1d1e9-1d1ea:x 1d200-1d241:o 1d242-1d244:m 1d245:o 1d2c0-1d2d3:x",
   "1d300-1d356:o 1da00-1da36:m 1da3b-1da6c:m 1da75:m 1da84:m 1da9b-1daaf:m 1df00-1df2a:x 1e000-1e02a:m",
   "1e08f:x 1e130-1e136:m 1e290-1e2ae:x 1e2ec-1e2ef:m 1e2ff:o 1e4d0-1e7fe:x 1e800-1e8cf:r 1e8d0-1e8d6:m",
   "1e922-1e943:r 1e944-1e94a:m 1e94b-1ed3d:r 1eef0-1f12f:o 1f16d-1f16f:o 1f1ad:o 1f260-1f6d7:o",
   "1f6dc-1f6df:x 1f6e0-1f773:o 1f774-1f77f:x 1f780-1f7d8:o 1f7d9:x 1f7e0-1f7eb:o 1f7f0:x 1f800-1f978:o",
   "1f979:x 1f97a-1f9cb:o 1f9cc:x 1f9cd-1fa74:o 1fa75-1fa77:x 1fa78-1fa7a:o 1fa7b-1fa7c:x 1fa80-1fa86:o",
   "1fa87-1fa88:x 1fa90-1faa8:o 1faa9-1faaf:x 1fab0-1fab6:o 1fab7-1fabf:x 1fac0-1fac2:o 1fac3-1facf:x",
   "1fad0-1fad6:o 1fad7-1faf8:x 1fb00-1fbca:o 2a6de-2a6df:x 2b735-2b739:x 31350-323af:x"]

end JoinTrust.Url.Domain
