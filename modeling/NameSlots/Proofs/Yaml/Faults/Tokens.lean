import NameSlots.Proofs.Results
import NameSlots.Yaml.Lexer

/-! What may be wrong with the tokens of a document: its form, an escaped code that is no character, or
the number of a version with too many digits. -/
namespace NameSlots.Yaml

/-- What may be wrong with the tokens of a text: its form, a code without a character, or a version
with too many digits. -/
def Fault.IsLexical : Fault → Prop
  | .malformed _ | .codeTooLarge | .codeOverflow | .tooManyDigits _ => True
  | _ => False

/-- A result of reading tokens. -/
abbrev Lexes {α : Type} (result : Except Fault α) : Prop := FailsOnly Fault.IsLexical result

@[simp] theorem lexes_malformed {α : Type} (what : Malformed) :
    Lexes (malformed what : Except Fault α) := failsOnly_error.2 trivial

@[simp] theorem isLexical_malformed (what : Malformed) : (Fault.malformed what).IsLexical := trivial
@[simp] theorem isLexical_codeTooLarge : Fault.codeTooLarge.IsLexical := trivial
@[simp] theorem isLexical_codeOverflow : Fault.codeOverflow.IsLexical := trivial
@[simp] theorem isLexical_tooManyDigits (n : Nat) : (Fault.tooManyDigits n).IsLexical := trivial

/-! ## Scalars -/

section
variable (cursor : Cursor) (fuel : Nat)

@[simp] theorem lexes_codeChar (code : Nat) : Lexes (codeChar code) := by simp [codeChar]

@[simp] theorem lexes_quotedBreaks : Lexes (quotedBreaks fuel cursor) := by
  induction fuel generalizing cursor with
  | zero => exact failsOnly_ok _
  | succ fuel ih => simp [quotedBreaks, ih]

@[simp] theorem lexes_readEscape : Lexes (readEscape cursor) := by
  unfold readEscape
  split <;> simp

@[simp] theorem lexes_quotedGap : Lexes (quotedGap cursor) := by simp [quotedGap]

@[simp] theorem lexes_readQuoted (double : Bool) : Lexes (readQuoted double fuel cursor) := by
  induction fuel generalizing cursor with
  | zero => exact lexes_malformed _
  | succ fuel ih => simp [readQuoted, ih]

@[simp] theorem lexes_readIncrement : Lexes (readIncrement cursor) := by simp [readIncrement]

@[simp] theorem lexes_readHeader : Lexes (readHeader cursor) := by
  unfold readHeader
  refine failsOnly_ite.2 ⟨fun _ => failsOnly_bind.2 ⟨lexes_readIncrement _, fun _ _ => ?_⟩,
    fun _ => failsOnly_bind.2 ⟨lexes_readIncrement _, fun _ _ => failsOnly_ite.2
      ⟨fun _ => ?_, fun _ => ?_⟩⟩⟩
  all_goals
    refine failsOnly_bind.2 ⟨failsOnly_pure _, fun found _ => ?_⟩
    cases hafter : found.2.skipLine? <;> simp [hafter]

@[simp] theorem lexes_readBlock (folded : Bool) (indent : Nat) :
    Lexes (readBlock folded indent cursor) := by
  unfold readBlock
  simp only [failsOnly_bind, lexes_readHeader, failsOnly_pure, implies_true, and_self]

/-! ## Names, tags and directives -/

@[simp] theorem lexes_readAnchor : Lexes (readAnchor cursor) := by
  simp only [readAnchor, failsOnly_ite, lexes_malformed, failsOnly_ok, implies_true, and_self]

@[simp] theorem lexes_readHandle : Lexes (readHandle cursor) := by simp [readHandle]

@[simp] theorem lexes_readBytes : Lexes (readBytes fuel cursor) := by
  induction fuel generalizing cursor with
  | zero => exact failsOnly_ok _
  | succ fuel ih =>
    unfold readBytes
    split <;> simp [ih]

@[simp] theorem lexes_readTagText : Lexes (readTagText fuel cursor) := by
  induction fuel generalizing cursor with
  | zero => exact failsOnly_ok _
  | succ fuel ih =>
    simp [readTagText, ih]
    intro _ _ _ _
    split <;> simp [ih]

@[simp] theorem lexes_readTagRest : Lexes (readTagRest cursor) := by simp [readTagRest]

@[simp] theorem lexes_readTag : Lexes (readTag cursor) := by
  simp [readTag]

@[simp] theorem lexes_readVersionNumber : Lexes (readVersionNumber cursor) := by
  simp [readVersionNumber]

@[simp] theorem lexes_readVersion : Lexes (readVersion cursor) := by
  simp [readVersion]

@[simp] theorem lexes_readTagDirective : Lexes (readTagDirective cursor) := by
  simp [readTagDirective]

@[simp] theorem lexes_readDirective : Lexes (readDirective cursor) := by
  unfold readDirective
  refine failsOnly_ite.2 ⟨fun _ => failsOnly_bind.2 ⟨lexes_malformed _, nofun⟩, fun _ =>
    failsOnly_ite.2 ⟨fun _ => failsOnly_bind.2 ⟨lexes_readVersion _, fun found _ => ?_⟩, fun _ =>
      failsOnly_ite.2 ⟨fun _ => failsOnly_bind.2 ⟨lexes_readTagDirective _, fun found _ => ?_⟩,
        fun _ => failsOnly_bind.2 ⟨failsOnly_pure _, fun found _ => ?_⟩⟩⟩⟩
  all_goals
    cases hafter : found.2.skipLine? <;> simp [hafter]

end

/-! ## Tokens -/

namespace Lexing

variable (lexing : Lexing)

@[simp] theorem lexes_dropStale : Lexes lexing.dropStale := by simp [dropStale]

@[simp] theorem lexes_dropKey : Lexes lexing.dropKey := by
  unfold dropKey
  split <;> simp

@[simp] theorem lexes_saveKey : Lexes lexing.saveKey := by simp [saveKey]

@[simp] theorem lexes_keyPart {α : Type} {read : Cursor → Except Fault (α × Cursor)}
    (token : α → Token) (h : ∀ cursor, Lexes (read cursor)) : Lexes (lexing.keyPart read token) := by
  simp [keyPart, h]

@[simp] theorem lexes_value : Lexes lexing.value := by
  unfold value
  split <;> simp

theorem lexes_token : Lexes lexing.token := by
  unfold token
  dsimp only
  simp only [failsOnly_ite]
  simp [endStream, directive, documentMark]
  intros
  split <;> simp [openFlow, closeFlow, flowEntry, quoted, blockEntry, key, block, plain]

theorem lexes_step : Lexes lexing.step := by
  simp [step, lexes_token]

theorem lexes_run (fuel : Nat) {fault : Fault} (h : (run fuel lexing).2 = some fault) :
    fault.IsLexical := by
  induction fuel generalizing lexing with
  | zero => cases h
  | succ fuel ih =>
    unfold run at h
    split at h
    · cases h
    · cases hstep : lexing.step with
      | ok after =>
        rw [hstep] at h
        exact ih after h
      | error why =>
        rw [hstep] at h
        obtain rfl := Option.some.inj h
        exact lexing.lexes_step why hstep

end Lexing

/-- The tokens of a text are at fault for its form, a code without a character or a version with too
many digits. -/
theorem lexes_tokens {text : Text} {fault : Fault} (h : (tokens text).2 = some fault) :
    fault.IsLexical := by
  unfold tokens at h
  split at h
  · exact Lexing.lexes_run _ _ h
  · rw [← Option.some.inj h]
    trivial

end NameSlots.Yaml
