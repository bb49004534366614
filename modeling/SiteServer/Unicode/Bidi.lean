import SiteServer.Text.RangeTable

/-!
# Directions of characters

The bidirectional class of a character, as far as labels of a domain name need it.
Classes that no label may hold are one class here.
-/

namespace SiteServer
namespace Unicode

/-- The bidirectional classes a label may hold, and one for all others. -/
inductive BidiClass where
  | leftToRight
  | rightToLeft
  | arabicLetter
  | arabicNumber
  | europeanNumber
  | europeanSeparator
  | commonSeparator
  | europeanTerminator
  | otherNeutral
  | boundaryNeutral
  | nonspacingMark
  | barred
  deriving DecidableEq, Repr

/-- The class with this short name. -/
def BidiClass.ofName (name : List Char) : BidiClass :=
  if name = ['R'] then rightToLeft
  else if name = ['A', 'L'] then arabicLetter
  else if name = ['A', 'N'] then arabicNumber
  else if name = ['E', 'N'] then europeanNumber
  else if name = ['E', 'S'] then europeanSeparator
  else if name = ['C', 'S'] then commonSeparator
  else if name = ['E', 'T'] then europeanTerminator
  else if name = ['O', 'N'] then otherNeutral
  else if name = ['B', 'N'] then boundaryNeutral
  else if name = ['N', 'S', 'M'] then nonspacingMark
  else barred

/-- The classes other than left-to-right. -/
def bidiClasses : Text.RangeTable BidiClass := Text.RangeTable.ofLines BidiClass.ofName
  ["0-8=BN 9=X a=X b=X c=X d=X e-1b=BN 1c-1e=X 1f=X 20=X 21-22=ON 23-25=ET 26-2a=ON 2b=ES",
   "2c=CS 2d=ES 2e-2f=CS 30-39=EN 3a=CS 3b-40=ON 5b-60=ON 7b-7e=ON 7f-84=BN 85=X 86-9f=BN",
   "a0=CS a1=ON a2-a5=ET a6-a9=ON ab-ac=ON ad=BN ae-af=ON b0-b1=ET b2-b3=EN b4=ON b6-b8=ON",
   "b9=EN bb-bf=ON d7=ON f7=ON 2b9-2ba=ON 2c2-2cf=ON 2d2-2df=ON 2e5-2ed=ON 2ef-2ff=ON",
   "300-36f=NSM 374-375=ON 37e=ON 384-385=ON 387=ON 3f6=ON 483-489=NSM 58a=ON 58d-58e=ON",
   "58f=ET 590=R 591-5bd=NSM 5be=R 5bf=NSM 5c0=R 5c1-5c2=NSM 5c3=R 5c4-5c5=NSM 5c6=R 5c7=NSM",
   "5c8-5ff=R 600-605=AN 606-607=ON 608=AL 609-60a=ET 60b=AL 60c=CS 60d=AL 60e-60f=ON",
   "610-61a=NSM 61b-64a=AL 64b-65f=NSM 660-669=AN 66a=ET 66b-66c=AN 66d-66f=AL 670=NSM",
   "671-6d5=AL 6d6-6dc=NSM 6dd=AN 6de=ON 6df-6e4=NSM 6e5-6e6=AL 6e7-6e8=NSM 6e9=ON",
   "6ea-6ed=NSM 6ee-6ef=AL 6f0-6f9=EN 6fa-710=AL 711=NSM 712-72f=AL 730-74a=NSM 74b-7a5=AL",
   "7a6-7b0=NSM 7b1-7bf=AL 7c0-7ea=R 7eb-7f3=NSM 7f4-7f5=R 7f6-7f9=ON 7fa-7fc=R 7fd=NSM",
   "7fe-815=R 816-819=NSM 81a=R 81b-823=NSM 824=R 825-827=NSM 828=R 829-82d=NSM 82e-858=R",
   "859-85b=NSM 85c-85f=R 860-88f=AL 890-891=AN 892-896=AL 897-89f=NSM 8a0-8c9=AL 8ca-8e1=NSM",
   "8e2=AN 8e3-902=NSM 93a=NSM 93c=NSM 941-948=NSM 94d=NSM 951-957=NSM 962-963=NSM 981=NSM",
   "9bc=NSM 9c1-9c4=NSM 9cd=NSM 9e2-9e3=NSM 9f2-9f3=ET 9fb=ET 9fe=NSM a01-a02=NSM a3c=NSM",
   "a41-a42=NSM a47-a48=NSM a4b-a4d=NSM a51=NSM a70-a71=NSM a75=NSM a81-a82=NSM abc=NSM",
   "ac1-ac5=NSM ac7-ac8=NSM acd=NSM ae2-ae3=NSM af1=ET afa-aff=NSM b01=NSM b3c=NSM b3f=NSM",
   "b41-b44=NSM b4d=NSM b55-b56=NSM b62-b63=NSM b82=NSM bc0=NSM bcd=NSM bf3-bf8=ON bf9=ET",
   "bfa=ON c00=NSM c04=NSM c3c=NSM c3e-c40=NSM c46-c48=NSM c4a-c4d=NSM c55-c56=NSM",
   "c62-c63=NSM c78-c7e=ON c81=NSM cbc=NSM ccc-ccd=NSM ce2-ce3=NSM d00-d01=NSM d3b-d3c=NSM",
   "d41-d44=NSM d4d=NSM d62-d63=NSM d81=NSM dca=NSM dd2-dd4=NSM dd6=NSM e31=NSM e34-e3a=NSM",
   "e3f=ET e47-e4e=NSM eb1=NSM eb4-ebc=NSM ec8-ece=NSM f18-f19=NSM f35=NSM f37=NSM f39=NSM",
   "f3a-f3d=ON f71-f7e=NSM f80-f84=NSM f86-f87=NSM f8d-f97=NSM f99-fbc=NSM fc6=NSM",
   "102d-1030=NSM 1032-1037=NSM 1039-103a=NSM 103d-103e=NSM 1058-1059=NSM 105e-1060=NSM",
   "1071-1074=NSM 1082=NSM 1085-1086=NSM 108d=NSM 109d=NSM 135d-135f=NSM 1390-1399=ON 1400=ON",
   "1680=X 169b-169c=ON 1712-1714=NSM 1732-1733=NSM 1752-1753=NSM 1772-1773=NSM 17b4-17b5=NSM",
   "17b7-17bd=NSM 17c6=NSM 17c9-17d3=NSM 17db=ET 17dd=NSM 17f0-17f9=ON 1800-180a=ON",
   "180b-180d=NSM 180e=BN 180f=NSM 1885-1886=NSM 18a9=NSM 1920-1922=NSM 1927-1928=NSM",
   "1932=NSM 1939-193b=NSM 1940=ON 1944-1945=ON 19de-19ff=ON 1a17-1a18=NSM 1a1b=NSM 1a56=NSM",
   "1a58-1a5e=NSM 1a60=NSM 1a62=NSM 1a65-1a6c=NSM 1a73-1a7c=NSM 1a7f=NSM 1ab0-1add=NSM",
   "1ae0-1aeb=NSM 1b00-1b03=NSM 1b34=NSM 1b36-1b3a=NSM 1b3c=NSM 1b42=NSM 1b6b-1b73=NSM",
   "1b80-1b81=NSM 1ba2-1ba5=NSM 1ba8-1ba9=NSM 1bab-1bad=NSM 1be6=NSM 1be8-1be9=NSM 1bed=NSM",
   "1bef-1bf1=NSM 1c2c-1c33=NSM 1c36-1c37=NSM 1cd0-1cd2=NSM 1cd4-1ce0=NSM 1ce2-1ce8=NSM",
   "1ced=NSM 1cf4=NSM 1cf8-1cf9=NSM 1dc0-1dff=NSM 1fbd=ON 1fbf-1fc1=ON 1fcd-1fcf=ON",
   "1fdd-1fdf=ON 1fed-1fef=ON 1ffd-1ffe=ON 2000-200a=X 200b-200d=BN 200f=R 2010-2027=ON",
   "2028=X 2029=X 202a=X 202b=X 202c=X 202d=X 202e=X 202f=CS 2030-2034=ET 2035-2043=ON",
   "2044=CS 2045-205e=ON 205f=X 2060-2065=BN 2066=X 2067=X 2068=X 2069=X 206a-206f=BN 2070=EN",
   "2074-2079=EN 207a-207b=ES 207c-207e=ON 2080-2089=EN 208a-208b=ES 208c-208e=ON",
   "20a0-20cf=ET 20d0-20f0=NSM 2100-2101=ON 2103-2106=ON 2108-2109=ON 2114=ON 2116-2118=ON",
   "211e-2123=ON 2125=ON 2127=ON 2129=ON 212e=ET 213a-213b=ON 2140-2144=ON 214a-214d=ON",
   "2150-215f=ON 2189-218b=ON 2190-2211=ON 2212=ES 2213=ET 2214-2335=ON 237b-2394=ON",
   "2396-2426=ON 2440-244a=ON 2460-2487=ON 2488-249b=EN 24ea-26ab=ON 26ad-27ff=ON",
   "2900-2b73=ON 2b76-2b95=ON 2b97-2bff=ON 2ce5-2cea=ON 2cef-2cf1=NSM 2cf9-2cff=ON 2d7f=NSM",
   "2de0-2dff=NSM 2e00-2e5d=ON 2e80-2e99=ON 2e9b-2ef3=ON 2f00-2fd5=ON 2ff0-2ffb=ON 3000=X",
   "3001-3004=ON 3008-3020=ON 302a-302d=NSM 3030=ON 3036-3037=ON 303d-303f=ON 3099-309a=NSM",
   "309b-309c=ON 30a0=ON 30fb=ON 31c0-31e3=ON 321d-321e=ON 3250-325f=ON 327c-327e=ON",
   "32b1-32bf=ON 32cc-32cf=ON 3377-337a=ON 33de-33df=ON 33ff=ON 4dc0-4dff=ON a490-a4c6=ON",
   "a60d-a60f=ON a66f-a672=NSM a673=ON a674-a67d=NSM a67e-a67f=ON a69e-a69f=NSM a6f0-a6f1=NSM",
   "a700-a721=ON a788=ON a802=NSM a806=NSM a80b=NSM a825-a826=NSM a828-a82b=ON a82c=NSM",
   "a838-a839=ET a874-a877=ON a8c4-a8c5=NSM a8e0-a8f1=NSM a8ff=NSM a926-a92d=NSM",
   "a947-a951=NSM a980-a982=NSM a9b3=NSM a9b6-a9b9=NSM a9bc-a9bd=NSM a9e5=NSM aa29-aa2e=NSM",
   "aa31-aa32=NSM aa35-aa36=NSM aa43=NSM aa4c=NSM aa7c=NSM aab0=NSM aab2-aab4=NSM",
   "aab7-aab8=NSM aabe-aabf=NSM aac1=NSM aaec-aaed=NSM aaf6=NSM ab6a-ab6b=ON abe5=NSM",
   "abe8=NSM abed=NSM fb1d=R fb1e=NSM fb1f-fb28=R fb29=ES fb2a-fb4f=R fb50-fd3d=AL",
   "fd3e-fd4f=ON fd50-fdce=AL fdcf=ON fdd0-fdef=BN fdf0-fdfc=AL fdfd-fdff=ON fe00-fe0f=NSM",
   "fe10-fe19=ON fe20-fe2f=NSM fe30-fe4f=ON fe50=CS fe51=ON fe52=CS fe54=ON fe55=CS",
   "fe56-fe5e=ON fe5f=ET fe60-fe61=ON fe62-fe63=ES fe64-fe66=ON fe68=ON fe69-fe6a=ET fe6b=ON",
   "fe70-fefe=AL feff=BN ff01-ff02=ON ff03-ff05=ET ff06-ff0a=ON ff0b=ES ff0c=CS ff0d=ES",
   "ff0e-ff0f=CS ff10-ff19=EN ff1a=CS ff1b-ff20=ON ff3b-ff40=ON ff5b-ff65=ON ffe0-ffe1=ET",
   "ffe2-ffe4=ON ffe5-ffe6=ET ffe8-ffee=ON fff0-fff8=BN fff9-fffd=ON fffe-ffff=BN 10101=ON",
   "10140-1018c=ON 10190-1019c=ON 101a0=ON 101fd=NSM 102e0=NSM 102e1-102fb=EN 10376-1037a=NSM",
   "10800-1091e=R 1091f=ON 10920-10a00=R 10a01-10a03=NSM 10a04=R 10a05-10a06=NSM",
   "10a07-10a0b=R 10a0c-10a0f=NSM 10a10-10a37=R 10a38-10a3a=NSM 10a3b-10a3e=R 10a3f=NSM",
   "10a40-10ae4=R 10ae5-10ae6=NSM 10ae7-10b38=R 10b39-10b3f=ON 10b40-10cff=R 10d00-10d23=AL",
   "10d24-10d27=NSM 10d28-10d2f=AL 10d30-10d39=AN 10d3a-10d3f=AL 10d40-10d68=R",
   "10d69-10d6d=NSM 10d6e-10e5f=R 10e60-10e7e=AN 10e7f-10eaa=R 10eab-10eac=NSM 10ead-10ebf=R",
   "10ec0-10ef9=AL 10efa-10eff=NSM 10f00-10f2f=R 10f30-10f45=AL 10f46-10f50=NSM",
   "10f51-10f6f=AL 10f70-10f81=R 10f82-10f85=NSM 10f86-10fff=R 11001=NSM 11038-11046=NSM",
   "11052-11065=ON 11070=NSM 11073-11074=NSM 1107f-11081=NSM 110b3-110b6=NSM 110b9-110ba=NSM",
   "110c2=NSM 11100-11102=NSM 11127-1112b=NSM 1112d-11134=NSM 11173=NSM 11180-11181=NSM",
   "111b6-111be=NSM 111c9-111cc=NSM 111cf=NSM 1122f-11231=NSM 11234=NSM 11236-11237=NSM",
   "1123e=NSM 11241=NSM 112df=NSM 112e3-112ea=NSM 11300-11301=NSM 1133b-1133c=NSM 11340=NSM",
   "11366-1136c=NSM 11370-11374=NSM 113bb-113c0=NSM 113ce=NSM 113d0=NSM 113d2=NSM",
   "113e1-113e2=NSM 11438-1143f=NSM 11442-11444=NSM 11446=NSM 1145e=NSM 114b3-114b8=NSM",
   "114ba=NSM 114bf-114c0=NSM 114c2-114c3=NSM 115b2-115b5=NSM 115bc-115bd=NSM 115bf-115c0=NSM",
   "115dc-115dd=NSM 11633-1163a=NSM 1163d=NSM 1163f-11640=NSM 11660-1166c=ON 116ab=NSM",
   "116ad=NSM 116b0-116b5=NSM 116b7=NSM 1171d-1171f=NSM 11722-11725=NSM 11727-1172b=NSM",
   "1182f-11837=NSM 11839-1183a=NSM 1193b-1193c=NSM 1193e=NSM 11943=NSM 119d4-119d7=NSM",
   "119da-119db=NSM 119e0=NSM 11a01-11a06=NSM 11a09-11a0a=NSM 11a33-11a38=NSM 11a3b-11a3e=NSM",
   "11a47=NSM 11a51-11a56=NSM 11a59-11a5b=NSM 11a8a-11a96=NSM 11a98-11a99=NSM 11b60=NSM",
   "11b62-11b64=NSM 11b66=NSM 11c30-11c36=NSM 11c38-11c3d=NSM 11c92-11ca7=NSM 11caa-11cb0=NSM",
   "11cb2-11cb3=NSM 11cb5-11cb6=NSM 11d31-11d36=NSM 11d3a=NSM 11d3c-11d3d=NSM 11d3f-11d45=NSM",
   "11d47=NSM 11d90-11d91=NSM 11d95=NSM 11d97=NSM 11ef3-11ef4=NSM 11f00-11f01=NSM",
   "11f36-11f3a=NSM 11f40=NSM 11f42=NSM 11f5a=NSM 11fd5-11fdc=ON 11fdd-11fe0=ET",
   "11fe1-11ff1=ON 13440=NSM 13447-13455=NSM 1611e-16129=NSM 1612d-1612f=NSM 16af0-16af4=NSM",
   "16b30-16b36=NSM 16f4f=NSM 16f8f-16f92=NSM 16fe2=ON 16fe4=NSM 1bc9d-1bc9e=NSM",
   "1bca0-1bca3=BN 1cf00-1cf2d=NSM 1cf30-1cf46=NSM 1d167-1d169=NSM 1d173-1d17a=BN",
   "1d17b-1d182=NSM 1d185-1d18b=NSM 1d1aa-1d1ad=NSM 1d1e9-1d1ea=ON 1d200-1d241=ON",
   "1d242-1d244=NSM 1d245=ON 1d300-1d356=ON 1d6db=ON 1d715=ON 1d74f=ON 1d789=ON 1d7c3=ON",
   "1d7ce-1d7ff=EN 1da00-1da36=NSM 1da3b-1da6c=NSM 1da75=NSM 1da84=NSM 1da9b-1da9f=NSM",
   "1daa1-1daaf=NSM 1e000-1e006=NSM 1e008-1e018=NSM 1e01b-1e021=NSM 1e023-1e024=NSM",
   "1e026-1e02a=NSM 1e08f=NSM 1e130-1e136=NSM 1e2ae=NSM 1e2ec-1e2ef=NSM 1e2ff=ET",
   "1e4ec-1e4ef=NSM 1e5ee-1e5ef=NSM 1e6e3=NSM 1e6e6=NSM 1e6ee-1e6ef=NSM 1e6f5=NSM",
   "1e800-1e8cf=R 1e8d0-1e8d6=NSM 1e8d7-1e943=R 1e944-1e94a=NSM 1e94b-1ec6f=R 1ec70-1ecbf=AL",
   "1ecc0-1ecff=R 1ed00-1ed4f=AL 1ed50-1edff=R 1ee00-1eeef=AL 1eef0-1eef1=ON 1eef2-1eeff=AL",
   "1ef00-1efff=R 1f000-1f02b=ON 1f030-1f093=ON 1f0a0-1f0ae=ON 1f0b1-1f0bf=ON 1f0c1-1f0cf=ON",
   "1f0d1-1f0f5=ON 1f100-1f10a=EN 1f10b-1f10f=ON 1f12f=ON 1f16a-1f16f=ON 1f1ad=ON",
   "1f260-1f265=ON 1f300-1f6d7=ON 1f6dc-1f6ec=ON 1f6f0-1f6fc=ON 1f700-1f776=ON 1f77b-1f7d9=ON",
   "1f7e0-1f7eb=ON 1f7f0=ON 1f800-1f80b=ON 1f810-1f847=ON 1f850-1f859=ON 1f860-1f887=ON",
   "1f890-1f8ad=ON 1f8b0-1f8b1=ON 1f900-1fa53=ON 1fa60-1fa6d=ON 1fa70-1fa7c=ON 1fa80-1fa88=ON",
   "1fa90-1fabd=ON 1fabf-1fac5=ON 1face-1fadb=ON 1fae0-1fae8=ON 1faf0-1faf8=ON 1fb00-1fb92=ON",
   "1fb94-1fbca=ON 1fbf0-1fbf9=EN 1fffe-1ffff=BN 2fffe-2ffff=BN 3fffe-3ffff=BN 4fffe-4ffff=BN",
   "5fffe-5ffff=BN 6fffe-6ffff=BN 7fffe-7ffff=BN 8fffe-8ffff=BN 9fffe-9ffff=BN afffe-affff=BN",
   "bfffe-bffff=BN cfffe-cffff=BN dfffe-e00ff=BN e0100-e01ef=NSM e01f0-e0fff=BN",
   "efffe-effff=BN ffffe-fffff=BN 10fffe-10ffff=BN"]

/-- The class of a code point. -/
def bidiClass (n : Nat) : BidiClass := (bidiClasses.lookup? n).getD .leftToRight

end Unicode
end SiteServer
