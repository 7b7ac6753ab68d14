import Suite.Shell.Expansion

/-!
# Redirections

A redirection leads a channel to a file, to a document or to where another channel leads. Words are
expanded first (`redirectionTargets`), then one channel after the other is led elsewhere. What goes
wrong then ends the shell only if the command is one that no function can take the place of, so
`withRedirections` says whether it went well.
-/

namespace Suite.Shell

/-- The target of a redirection as a channel: `-` closes it. -/
def channelOf? (target : List Char) : Option (Option Nat) :=
  match target with
  | ['-'] => some none
  | [c] => if c.isDigit then some (some (c.toNat - 48)) else none
  | _ => none

/-- The redirections with their words expanded. -/
def redirectionTargets (again : Runner) :
    List (Redirection Word) → Eval (List (Redirection (List Char)))
  | [] => return []
  | r :: rest => do
    let target ← expandText again r.target
    if r.kind = .copy && (channelOf? target).isNone then
      modify fun s => { s with line := s.reached }
      fail "Syntax error: Bad fd number"
    let more ← redirectionTargets again rest
    return { channel := r.channel, kind := r.kind, target } :: more

/-- A file is there already that may not be written over. -/
def Session.isProtected (s : Session) (kind : RedirectionKind) (path : String) : Bool :=
  kind = .write && s.has 'C' &&
    match s.places path with
    | .ok (_, .file _ _) => true
    | _ => false

/-- What a redirection opens a file for. -/
def RedirectionKind.access : RedirectionKind → Access
  | .read | .copy | .document _ => .read
  | .write | .overwrite => .write
  | .append => .append
  | .readWrite => .readWrite

/-- Leads a channel to a new stream. -/
def leadTo (channel : Nat) (stream : Stream) : Eval Unit :=
  modify fun s =>
    let (i, world) := s.world.push stream
    { s with world }.withChannel channel (some i)

/-- A file would have to be made that may not be. -/
def Session.keepsPlace (s : Session) (kind : RedirectionKind) (path : String) : Bool :=
  kind = .write && s.has 'C' && (s.places path).isOk

/-- Makes a redirection. -/
def redirect (again : Runner) (r : Redirection (List Char)) : Eval Unit := do
  let s ← get
  let path := String.ofList r.target
  let refuse (e : Host.IoError) : Eval Unit :=
    if r.kind.access ≠ .read && !s.keepsPlace r.kind path then
      fail ("cannot create " ++ path ++ ": " ++ reasonOr "Directory nonexistent" e)
    else fail ("cannot open " ++ path ++ ": " ++ reasonOr "No such file" e)
  match r.kind with
  | .document number =>
    let text := characters (← wordMarks again false true (s.documents[number]?.getD []))
    leadTo r.channel (.source text)
  | .copy =>
    match channelOf? r.target with
    | some (some from_) =>
      match s.channels.lookup from_ with
      | some i => set (s.withChannel r.channel (some i))
      | none => fail (path ++ ": Bad file descriptor")
    | _ => set (s.withChannel r.channel none)
  | _ =>
    if s.isProtected r.kind path then fail ("cannot create " ++ path ++ ": File exists")
    match s.opened r.kind.access path with
    | .error e => refuse e
    | .ok (i, s) => set (s.withChannel r.channel (some i))

/-- Makes redirections one after the other. -/
def redirectAll (again : Runner) : List (Redirection (List Char)) → Eval Unit
  | [] => return
  | r :: rest => do
    redirect again r
    redirectAll again rest

/-- The session with channels that lead where they led before. -/
def Session.restored (s : Session) (before : List (Nat × Nat)) (channels : List Nat) : Session :=
  channels.foldl (fun s c => s.withChannel c (before.lookup c)) s

/-- Evaluates with redirections, which are taken back afterwards unless they are to be kept. Nothing
is evaluated if they cannot be made. -/
def withRedirections {α : Type} (again : Runner) (rs : List (Redirection Word)) (kept : Bool)
    (x : Eval α) : Eval (Option α) := do
  let targets ← redirectionTargets again rs
  -- Words are expanded before any channel changes, so that their commands see the old ones.
  let s ← get
  let before := s.channels
  let held := s.held
  let changed := targets.map (·.channel)
  let behind := (before.filter fun c => !kept && changed.contains c.1).map Prod.snd
  set { s with held := behind ++ held }
  let takeBack := modify fun s => { s.restored before changed with held }
  match ← attempt (redirectAll again targets) with
  | .error .failed =>
    takeBack
    return none
  | .error f => throw f
  | .ok _ =>
    thenAlways (some <$> x) do
      if !kept then takeBack

end Suite.Shell
