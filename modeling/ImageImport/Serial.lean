/-
# The serial console of a worker

A worker reports by printing lines (`SerialConsole`).  The console keeps every line, with the instance that
printed it, and the values reported in tags `<serial-output key:'K' value:'V'>`, of which a line may hold any
number.  Neither `K` nor `V` contains a quote, and `K` is not empty.

A line is scanned from left to right.  Where a tag is read, the scan goes on behind it; where none is, it goes
on with the next character.  The last value reported under a key is the value of the key.
-/
import ImageImport.Text.Basic

namespace ImageImport

/-! ## 1. Tags in a line -/

namespace SerialTag

/-- The text before the key. -/
def opening : List Char := "<serial-output key:'".toList

/-- The text between key and value. -/
def middle : List Char := "' value:'".toList

/-- The text behind the value. -/
def closing : List Char := "'>".toList

/-- A tag as it is printed. -/
def print (key value : List Char) : List Char := opening ++ key ++ middle ++ value ++ closing

/-- Not a quote. -/
def isInside (c : Char) : Bool := c.toNat != 39

/-- The tag at the very start of the characters, and what follows it. -/
def read? (cs : List Char) : Option ((List Char × List Char) × List Char) := do
  let afterOpening ← Text.after? opening cs
  let key := afterOpening.takeWhile isInside
  if key.isEmpty then none
  let afterMiddle ← Text.after? middle (afterOpening.dropWhile isInside)
  let value := afterMiddle.takeWhile isInside
  let rest ← Text.after? closing (afterMiddle.dropWhile isInside)
  return ((key, value), rest)

/-- Reading a tag uses characters up. -/
theorem length_read?_lt {cs rest : List Char} {kv : List Char × List Char}
    (h : read? cs = some (kv, rest)) : rest.length < cs.length := by
  simp only [read?, Option.bind_eq_bind, Option.bind_eq_some_iff, Option.pure_def] at h
  obtain ⟨a, ha, h⟩ := h
  split at h
  · simp at h
  · simp only [Option.bind_eq_some_iff, Option.some.injEq, Prod.mk.injEq] at h
    obtain ⟨b, hb, c, hc, -, rfl⟩ := h
    have h1 := Text.length_after?_lt (by decide) ha
    have h2 := Text.length_after?_le hb
    have h3 := Text.length_after?_le hc
    have h4 := Text.length_dropWhile_le isInside a
    have h5 := Text.length_dropWhile_le isInside b
    omega

/-- **The tags of a line, from left to right.** -/
def scan (cs : List Char) : List (List Char × List Char) :=
  match h : read? cs with
  | some (kv, rest) =>
    have := length_read?_lt h
    kv :: scan rest
  | none =>
    match cs with
    | [] => []
    | _ :: rest => scan rest
termination_by cs.length

end SerialTag

/-! ## 2. The console -/

/-- The recorded lines in order, each with its instance. -/
structure SerialConsole where
  records : List (String × String)
  deriving DecidableEq

namespace SerialConsole

/-- Nothing recorded yet. -/
def empty : SerialConsole := ⟨[]⟩

/-- Record a line printed by an instance. -/
def record (c : SerialConsole) (inst line : String) : SerialConsole := ⟨c.records ++ [(inst, line)]⟩

/-- Every line in order, behind the name of its instance. -/
def logs (c : SerialConsole) : List String := c.records.map fun (inst, line) => inst ++ ": " ++ line

/-- Every tag recorded, in order. -/
def tags (c : SerialConsole) : List (String × String) :=
  c.records.flatMap fun (_, line) =>
    (SerialTag.scan line.toList).map fun (k, v) => (String.ofList k, String.ofList v)

/-- The value last reported under `key`. -/
def value? (c : SerialConsole) (key : String) : Option String :=
  (c.tags.reverse.find? fun kv => kv.1 == key).map (·.2)

end SerialConsole

end ImageImport
