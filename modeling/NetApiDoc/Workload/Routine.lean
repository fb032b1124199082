import NetApiDoc.Reference.Split

set_option autoImplicit false

namespace NetApiDoc.Workload

open NetApiDoc.Reference

inductive Routine
  | newSignature
  | fullName
  | showSignature
  | readSignature
  | describeSignature
  | addTarget
  | indexText
  | objectType
  | runNested
  | enterNesting
  | leaveNesting
  | splitTarget
  | renderField
  | newRole
  | processLink
  | buildIndex
  | newDomain
  | clearDocument
  | findObject
  | resolveTyped
  | resolveAny
  | listObjects
  | registerExtension
  deriving DecidableEq, Repr

def Routine.all : List Routine :=
  [.newSignature, .fullName, .showSignature, .readSignature, .describeSignature, .addTarget,
    .indexText, .objectType, .runNested, .enterNesting, .leaveNesting, .splitTarget,
    .renderField, .newRole, .processLink, .buildIndex, .newDomain, .clearDocument, .findObject,
    .resolveTyped, .resolveAny, .listObjects, .registerExtension]

def Routine.body : Routine → List Nat
  | .newSignature => [66, 67, 68]
  | .fullName => [72, 73, 74]
  | .showSignature => [77]
  | .readSignature => [137, 138, 139, 140, 141, 142, 143, 144, 145, 150]
  | .describeSignature => [168, 169, 170, 171, 174, 176, 178, 179, 181, 182, 183, 186, 187,
      189, 190, 191, 195, 196, 198, 199, 200, 201, 204, 206, 207, 208]
  | .addTarget => [216, 217, 218, 219, 220, 221, 222, 225, 226, 227, 228, 229, 235, 236, 238,
      240, 241, 242, 243, 244, 245]
  | .indexText => [249, 250, 251, 256, 257, 258, 259, 260, 261, 262, 264]
  | .objectType => [268]
  | .runNested => [292, 293, 294, 295, 296, 297, 298, 299]
  | .enterNesting => [316, 317, 318, 319, 320, 321, 322, 324]
  | .leaveNesting => [327, 328, 329, 330, 331, 332, 333, 334]
  | .splitTarget => [346, 347, 348, 349, 350, 352, 353, 354, 355, 356, 357, 358, 359, 360, 361]
  | .renderField => [365, 366, 368, 369, 370, 371, 372, 373, 374, 375, 376, 377, 378, 379, 380,
      388, 389, 390, 391, 393, 394, 395, 402]
  | .newRole => [570]
  | .processLink => [586, 589, 590, 592, 593, 594, 595, 596, 597, 598, 600, 601, 603]
  | .buildIndex => [632, 633, 635, 636, 637, 638, 639, 641, 642, 644, 645, 646, 647, 648, 650,
      661, 662]
  | .newDomain => [696, 697, 698, 700, 701, 702, 703, 706, 707]
  | .clearDocument => [710, 711, 712, 713]
  | .findObject => [725, 726, 728, 729, 731, 732, 733, 735, 736, 737, 738, 739, 741, 742, 743,
      744, 745, 747, 748, 750, 751, 752, 754, 755, 756, 757, 759, 760, 761]
  | .resolveTyped => [765, 766, 768, 769, 771, 772, 773, 774, 775, 777, 778]
  | .resolveAny => [785, 786, 788, 789, 790, 791, 794]
  | .listObjects => [797, 798, 799]
  | .registerExtension => [803]

def loadLines : List Nat :=
  [6, 7, 9, 11, 12, 13, 14, 15, 16, 17, 18, 20, 21, 24, 27, 28, 32, 42, 45, 47, 50, 65, 70, 76,
    80, 104, 105, 106, 107, 108, 109, 111, 118, 119, 152, 210, 247, 266, 267, 271, 275, 280, 285,
    301, 326, 337, 341, 342, 344, 363, 405, 406, 409, 410, 413, 417, 418, 429, 437, 438, 439,
    440, 443, 444, 445, 446, 449, 450, 451, 452, 455, 456, 457, 458, 461, 462, 463, 464, 467,
    468, 469, 470, 474, 475, 476, 477, 480, 481, 482, 483, 484, 491, 509, 510, 511, 512, 514,
    521, 540, 541, 542, 544, 551, 552, 553, 554, 557, 559, 560, 561, 565, 569, 572, 606, 623,
    627, 628, 629, 631, 665, 669, 670, 672, 674, 678, 687, 691, 695, 709, 715, 763, 780, 796,
    802]

def domainStatements : List Nat :=
  (loadLines ++ Routine.all.flatMap Routine.body).mergeSort (· ≤ ·)

def partLines (part : RefPart) (first : Bool) : List Nat :=
  let marked := part.target.isNone && (part.name.startsWith "." || part.name.startsWith "~")
  let mark := if !marked then [] else
    [373, 374] ++ (if part.name.startsWith "." then [375] else [376, 377])
  [372] ++ mark ++ [378] ++ (if part.target.isNone && !marked then [379] else []) ++
    [380, 388, 389] ++ (if first then [390, 391] else [393, 394, 395])

def renderFieldLines (role : Option String) (target : String) : List Nat :=
  match role with
  | none => [365, 366]
  | some _ =>
    [365, 368, 369, 370, 371] ++
      ((split target).reverse.zipIdx.flatMap fun (p, i) => partLines p (i == 0)) ++ [402]

def lineSet (lines : List Nat) : List Nat := (lines.mergeSort (· ≤ ·)).eraseDups

structure Footprint where
  early : List Nat
  late : List Nat
  deriving DecidableEq, Repr

def Footprint.ofRoutines (routines : List Routine) : Footprint :=
  ⟨routines.flatMap Routine.body, []⟩

end NetApiDoc.Workload
