import NameSlots.Number.Whole

/-! Why a pattern does not compile. -/

namespace NameSlots.Regex

/-- The ways in which a pattern can break the syntax. -/
inductive Malformed where
  | danglingBackslash
  | unknownEscape
  | shortEscape
  | octalTooLarge
  | unknownCharacterName
  | missingName
  | badGroupName
  | duplicateName
  | unknownGroup
  | openGroup
  | groupOfSameLookbehind
  | unclosedClass
  | badRange
  | nothingToRepeat
  | repeatOfRepeat
  | descendingRepeat
  | unclosedGroup
  | unopenedGroup
  | unclosedComment
  | unknownExtension
  | badInlineFlags
  | lateGlobalFlags
  | thirdConditionBranch
  | lookbehindTooWide
  | lookbehindOfVaryingWidth
  | repeatInTemplate
deriving DecidableEq

/-- Why a pattern is refused outright: a repeat count has more digits than a number may have, or the
pattern's own flags ask for ASCII and for Unicode at once. -/
inductive Refusal where
  | tooManyDigits (count : Nat)
  | asciiAndUnicode
deriving DecidableEq

def Refusal.message : Refusal → Text
  | .tooManyDigits count => Number.tooManyDigitsMessage count
  | .asciiAndUnicode => "ASCII and UNICODE flags are incompatible".toList

/-- Why a pattern does not compile. -/
inductive Fault where
  | malformed (why : Malformed)
  | repeatTooLarge
  | refused (why : Refusal)
deriving DecidableEq

end NameSlots.Regex
