/-!
# Appraisal.Cose.Registry

The numbers that the public registries assign to algorithms, header parameters and content formats.
A number that no registry assigns is refused, unless it is left to private use.

* `isAlgorithm`, `isHeaderParameter`, `isContentFormat`: whether a number may stand in a header.
-/

namespace Appraisal
namespace Cose

def algorithms : List Int :=
  [-65535, -260, -259, -258, -257, -47, -46, -45, -44, -43, -42, -41, -40, -39, -38, -37, -36, -35,
   -34, -33, -32, -31, -30, -29, -28, -27, -26, -25, -18, -17, -16, -15, -14, -13, -12, -11, -10, -8,
   -7, -6, -5, -4, -3, 0, 1, 2, 3, 4, 5, 6, 7, 10, 11, 12, 13, 14, 15, 24, 25, 26, 30, 31, 32, 33, 34]

def headerParameters : List Int := [0, 1, 2, 3, 4, 5, 6, 7, 9, 10, 32, 33, 34, 35, 256, 257]

def contentFormats : List Int :=
  [0, 16, 17, 18, 40, 41, 42, 47, 50, 51, 52, 60, 61, 62, 63, 96, 97, 98, 101, 102, 110, 111, 112,
   113, 114, 115, 256, 271, 272, 280, 281, 284, 285, 286, 287, 310, 311, 320, 322, 432, 10000, 10001,
   11050, 11060, 11542, 11543, 11544, 20000, 30000]

/-- Whether a number is that of an algorithm; numbers below -65536 are left to private use. -/
def isAlgorithm (n : Int) : Bool := n < -65536 || algorithms.contains n

def isHeaderParameter (n : Int) : Bool := headerParameters.contains n

def isContentFormat (n : Int) : Bool := contentFormats.contains n

end Cose
end Appraisal
