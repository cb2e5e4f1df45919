import UpgradeGraph.Text

/-!
# Where a graph is kept

A graph is kept in a file, or in memory for one run only. Either is told by a path, or by an
address with the scheme `file`, whose query says how the file is to be opened. Of several
settings of one kind the last counts, but none may ask for more than the one before it
grants.
-/

namespace UpgradeGraph

/-- How the file of a graph is opened. -/
inductive Access where
  /-- It is made if it is not there. -/
  | create
  /-- It has to be there. -/
  | existing
  /-- It has to be there, and nothing is written. -/
  | readOnly
deriving DecidableEq, Repr

/-- Where a graph is kept. -/
inductive Location where
  | memory (isReadOnly : Bool)
  | file (path : Text) (access : Access)
deriving DecidableEq, Repr

/-- Why an address does not tell where a graph is kept. -/
inductive LocationError where
  /-- The address names another machine. -/
  | authority (name : Text)
  | unknownAccess (value : Text)
  | unknownCache (value : Text)
  /-- An earlier setting does not grant this. -/
  | accessDenied (value : Text)
  | unknownEngine (name : Text)
deriving DecidableEq, Repr

/-- The wording of the error. -/
def LocationError.message : LocationError → Text
  | authority name => ("invalid uri authority: " : Text) ++ name
  | unknownAccess value => ("no such access mode: " : Text) ++ value
  | unknownCache value => ("no such cache mode: " : Text) ++ value
  | accessDenied value => ("access mode not allowed: " : Text) ++ value
  | unknownEngine name => ("no such vfs: " : Text) ++ name

namespace Location

/-! ## Addresses -/

/-- A part of an address, decoded up to a null character. -/
def decoded (s : Text) : Text :=
  ((Percent.decode? s).getD s).takeWhile (· ≠ Char.ofNat 0)

/-- The path of an address, with its query, behind the name of a machine. No name and
`localhost` mean this one. -/
def afterAuthority (s : Text) : Except LocationError Text :=
  match Text.after? "//" s with
  | none => .ok s
  | some rest =>
    let name := rest.takeWhile (· ≠ '/')
    if name.isEmpty || name = "localhost" then .ok (rest.drop name.length)
    else .error (.authority name)

/-- The settings of a query, in order; those without a name are left out. -/
def settings (query : Text) : List (Text × Text) :=
  (query.splitOn '&').filterMap fun setting =>
    let name := decoded (setting.takeWhile (· ≠ '='))
    let value := decoded ((setting.dropWhile (· ≠ '=')).drop 1)
    if name.isEmpty then none else some (name, value)

/-! ## Settings -/

/-- What the settings of an address ask for. -/
structure Choice where
  /-- How to open a file; nothing if the graph is to be kept in memory. -/
  access : Option Access := some .create
  /-- What keeps files. -/
  engine : Text := "unix"
deriving DecidableEq, Repr

/-- The values of the setting `mode`. -/
def modes : List (Text × Option Access) :=
  [("ro", some .readOnly), ("rw", some .existing), ("rwc", some .create), ("memory", none)]

/-- The values of the setting `cache`. -/
def caches : List Text := ["shared", "private"]

/-- What keeps files by its name; the last one keeps them in memory. -/
def engines : List Text := ["unix", "unix-none", "unix-dotfile", "unix-excl", "memdb"]

/-- How much an access may do. -/
def rank : Access → Nat
  | .readOnly => 1
  | .existing => 2
  | .create => 3

/-- The access may do no more than another one. A graph in memory grants and may do
anything. -/
def isGranted (granted : Option Access) (asked : Option Access) : Bool :=
  match granted, asked with
  | some granted, some asked => rank asked ≤ rank granted
  | _, _ => true

/-- Follows a setting. -/
def follow (choice : Choice) : Text × Text → Except LocationError Choice := fun (name, value) =>
  if name = "vfs" then .ok { choice with engine := value }
  else if name = "cache" then
    if caches.contains value then .ok choice else .error (.unknownCache value)
  else if name = "mode" then
    match modes.lookup value with
    | none => .error (.unknownAccess value)
    | some access =>
      if isGranted choice.access access then .ok { choice with access }
      else .error (.accessDenied value)
  else .ok choice

/-! ## Reading -/

/-- What stands for a graph in memory. -/
def memoryName : Text := ":memory:"

/-- The location that a path and a choice tell. A file without a name is kept in memory. -/
def ofChoice (path : Text) (choice : Choice) : Location :=
  match choice.access with
  | none => .memory false
  | some access =>
    if path.isEmpty || path = memoryName || choice.engine = "memdb" then
      .memory (access = .readOnly)
    else .file path access

/-- Reads what follows the scheme of an address. -/
def ofAddress (s : Text) : Except LocationError Location := do
  let s := (← afterAuthority s).takeWhile (· ≠ '#')
  let path := decoded (s.takeWhile (· ≠ '?'))
  let choice ← (settings ((s.dropWhile (· ≠ '?')).drop 1)).foldlM follow {}
  if engines.contains choice.engine then return ofChoice path choice
  else throw (.unknownEngine choice.engine)

/-- Reads where a graph is kept. -/
def parse (s : Text) : Except LocationError Location :=
  match Text.after? "file:" s with
  | some rest => ofAddress rest
  | none => .ok (ofChoice s {})

end Location

end UpgradeGraph
