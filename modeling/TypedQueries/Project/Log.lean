import TypedQueries.ProjectError
import TypedQueries.Schema.Item
import TypedQueries.Text.Escaped

/-!
What a run reports while it works, and computations that report and may fail.
-/

namespace TypedQueries

inductive LogEvent where
  | loadedConfig (path : Path)
  | declared (item : SchemaItem)
  | loadedSchema (path : Path) (declarations : Nat)
  | extractedBlocks (file : String) (blocks : Nat)
  | generatedQuery (name kind : String) (params : Nat)
  | compiledFile (file : String) (queries : Nat)
  | compiledQueries (queries : Nat)
  | checked (declarations queries : Nat)
  | wrote (path : Path)
  deriving DecidableEq, Repr

namespace LogEvent

/-- Details are reported on request only. -/
def isDetail : LogEvent → Bool
  | declared _ => true
  | extractedBlocks _ _ => true
  | generatedQuery _ _ _ => true
  | compiledFile _ _ => true
  | _ => false

def message : LogEvent → String
  | loadedConfig path => "Loaded config from " ++ path.text
  | declared (.table _) => "Declared table"
  | declared (.enumeration _) => "Declared enum"
  | loadedSchema path declarations => s!"Loaded schema {path.text} ({declarations} declarations)"
  | extractedBlocks _ _ => "Extracted query blocks"
  | generatedQuery _ _ _ => "Generated query"
  | compiledFile file queries => s!"Compiled {queries} queries from {file}"
  | compiledQueries queries => s!"Compiled {queries} queries"
  | checked declarations queries => s!"OK: {declarations} declarations, {queries} queries"
  | wrote path => "Wrote " ++ path.text

/-- What an event is about, by name. -/
def fields : LogEvent → List (String × String)
  | declared (.table t) => [("table", t.name), ("fields", Nat.repr t.fields.length)]
  | declared (.enumeration e) => [("enumeration", e.name), ("values", Nat.repr e.values.length)]
  | extractedBlocks file blocks => [("file", Text.escaped file), ("blocks", Nat.repr blocks)]
  | generatedQuery name kind params =>
    [("query", name), ("kind", kind), ("params", Nat.repr params)]
  | _ => []

/-- Characters that would steer a terminal are spelled out in a message. -/
def guard (c : Char) : List Char :=
  let n := c.toNat
  if n = 0x07 ∨ n = 0x08 then ['\\', 'x', '0'] ++ Nat.toDigits 16 n
  else if n = 0x0c then ['\\', 'x', '0', 'c']
  else if n = 0x1b ∨ n = 0x7f then ['\\', 'x'] ++ Nat.toDigits 16 n
  else if 0x80 ≤ n ∧ n ≤ 0x9f then ['\\', 'u', '\x7b'] ++ Nat.toDigits 16 n ++ ['\x7d']
  else [c]

/-- The line of an event: its level, its message, then its fields as they are. -/
def render (e : LogEvent) : String :=
  let level := if e.isDetail then "DEBUG " else " INFO "
  level ++ String.ofList (e.message.toList.flatMap guard) ++
    String.join (e.fields.map fun (name, value) => " " ++ name ++ "=" ++ value) ++ "\n"

end LogEvent

/-- A result, or why there is none, and what was reported on the way. -/
structure Logged (α : Type) where
  events : List LogEvent
  result : Except ProjectError α

namespace Logged

variable {α β : Type}

def bind (x : Logged α) (f : α → Logged β) : Logged β :=
  match x.result with
  | .ok a => ⟨x.events ++ (f a).events, (f a).result⟩
  | .error e => ⟨x.events, .error e⟩

instance : Monad Logged where
  pure a := ⟨[], .ok a⟩
  bind := bind

def of (result : Except ProjectError α) : Logged α := ⟨[], result⟩

def report (events : List LogEvent) : Logged Unit := ⟨events, .ok ()⟩

theorem bind_def (x : Logged α) (f : α → Logged β) : x >>= f = x.bind f := rfl

@[simp]
theorem result_pure (a : α) : (pure a : Logged α).result = .ok a := rfl

@[simp]
theorem result_of (r : Except ProjectError α) : (of r).result = r := rfl

@[simp]
theorem result_report (events : List LogEvent) : (report events).result = .ok () := rfl

@[simp]
theorem result_bind (x : Logged α) (f : α → Logged β) :
    (x >>= f).result = x.result >>= fun a => (f a).result := by
  rw [bind_def, bind]
  cases h : x.result <;> rfl

end Logged

end TypedQueries
