import Enlistment.Text.Mark

/-!
Directions: which way a character runs by itself. The ranges may go on over codes that stand for no
character.
-/

namespace Enlistment.Text

inductive Direction where
  | leftToRight
  | rightToLeft
  | europeanNumber
  | arabicNumber
  | mark
  | neutral
deriving DecidableEq

def rightToLeftRanges : List CodeRange :=
  CodeRange.ofTable "
    5BE 5C0 5C3 5C6 5D0-5F4 608 60B 60D 61B-64A 66D-66F 671-6D5 6E5-6E6 6EE-6EF 6FA-710 712-72F
    74D-7A5 7B1-7EA 7F4-7F5 7FA 7FE-815 81A 824 828 830-858 85E-88F 8A0-8C9 FB1D FB1F-FB28
    FB2A-FBC2 FBD3-FD3D FD50-FD8F FD92-FDC7 FDF0-FDFC FE70-FEFC 10800-1091B 10920-10A00 10A10-10A35
    10A40-10AE4 10AEB-10B35 10B40-10D23 10D4A-10D65 10D6F-10D8F 10E80-10EA9 10EAD-10EC7 10F00-10F45
    10F51-10F81 10F86-10FF6 1E800-1E8CF 1E900-1E943 1E94B-1EEBB"

def arabicNumberRanges : List CodeRange :=
  CodeRange.ofTable "660-669 66B-66C 10D30-10D49 10E60-10E7E"

def europeanNumberRanges : List CodeRange :=
  CodeRange.ofTable "
    30-39 B2-B3 B9 6F0-6F9 2070 2074-2079 2080-2089 FF10-FF19 102E1-102FB 1CCF0-1CCF9 1D7CE-1D7FF
    1F101-1F10A 1FBF0-1FBF9"

def neutralRanges : List CodeRange :=
  CodeRange.ofTable "
    0-2F 3A-40 5B-60 7B-A9 AB-B1 B4 B6-B8 BB-BF D7 F7 2B9-2BA 2C2-2CF 2D2-2DF 2E5-2ED 2EF-2FF
    374-375 37E 384-385 387 3F6 58A-58F 606-607 609-60A 60C 60E-60F 66A 6DE 6E9 7F6-7F9 9F2-9F3 9FB
    AF1 BF3-BFA C78-C7E E3F F3A-F3D 1390-1399 1400 169B-169C 17DB 17F0-180A 1940-1945 19DE-19FF
    1FBD 1FBF-1FC1 1FCD-1FCF 1FDD-1FDF 1FED-1FEF 1FFD-205F 207A-207E 208A-208E 20A0-20C1 2100-2101
    2103-2106 2108-2109 2114 2116-2118 211E-2123 2125 2127 2129 212E 213A-213B 2140-2144 214A-214D
    2150-215F 2189-2335 237B-2394 2396-2487 24EA-26AB 26AD-27FF 2900-2BFF 2CE5-2CEA 2CF9-2CFF
    2E00-3004 3008-3020 3030 3036-3037 303D-303F 309B-309C 30A0 30FB 31C0-31E5 321D-321E 3250-325F
    327C-327E 32B1-32BF 32CC-32CF 3377-337A 33DE-33DF 33FF 4DC0-4DFF A490-A4C6 A60D-A60F A673
    A67E-A67F A700-A721 A788 A828-A82B A838-A839 A874-A877 AB6A-AB6B FB29 FBC3-FBD2 FD3E-FD4F
    FD90-FD91 FDC8-FDCF FDFD-FE18 FE31-FE6B FF01-FF0F FF1A-FF20 FF3B-FF40 FF5B-FF65 FFE0-FFEE 10101
    10140-1018C 10190-101A0 1091F 10B39-10B3F 10D6E 10ED0-10ED8 11052-11065 11660-1166C 11FD5-11FF1
    16FE2 1CC00-1CCD5 1CCFA-1CEF0 1D1E9-1D241 1D245 1D300-1D356 1D6C1 1D6DB 1D6FB 1D715 1D735 1D74F
    1D76F 1D789 1D7A9 1D7C3 1E2FF 1EEF0-1F0F5 1F10B-1F10F 1F12F 1F16A-1F16F 1F1AD 1F260-1FBEF 1FBFA"

def letterLikeMarkRanges : List CodeRange :=
  CodeRange.ofTable "CBF CC6 11A07-11A08 11C3F"

def direction (character : Char) : Direction :=
  if isInRanges rightToLeftRanges character then .rightToLeft
  else if isInRanges europeanNumberRanges character then .europeanNumber
  else if isInRanges arabicNumberRanges character then .arabicNumber
  else if isInRanges letterLikeMarkRanges character then .leftToRight
  else if isNonspacingMark character then .mark
  else if isInRanges neutralRanges character then .neutral
  else .leftToRight

end Enlistment.Text
