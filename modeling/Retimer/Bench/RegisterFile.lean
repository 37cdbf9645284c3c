/-!
# Register files

What the simulated parts of the bench are made of: a byte at each of the 256 addresses.
-/

namespace Retimer.Bench

/-- A byte at each address. -/
structure RegisterFile where
  /-- The byte at an address. -/
  get : UInt8 → UInt8

namespace RegisterFile

/-- Zero everywhere. -/
def blank : RegisterFile := ⟨fun _ => 0⟩

/-- Stores a byte at one address and leaves all others as they are. -/
def set (r : RegisterFile) (address value : UInt8) : RegisterFile :=
  ⟨fun a => if a = address then value else r.get a⟩

/-- Stores bytes in turn. -/
def setAll (r : RegisterFile) (contents : List (UInt8 × UInt8)) : RegisterFile :=
  contents.foldl (fun r p => r.set p.1 p.2) r

/-- The addresses that do not hold zero, in ascending order, each with what it holds. -/
def nonzero (r : RegisterFile) : List (UInt8 × UInt8) :=
  (List.range UInt8.size).filterMap fun n =>
    let address := UInt8.ofNat n
    if r.get address = 0 then none else some (address, r.get address)

@[ext] theorem ext_get {r s : RegisterFile} (h : ∀ a, r.get a = s.get a) : r = s := by
  cases r; cases s
  exact congrArg RegisterFile.mk (funext h)

@[simp] theorem get_set (r : RegisterFile) (a b v : UInt8) :
    (r.set a v).get b = if b = a then v else r.get b := rfl

end RegisterFile

end Retimer.Bench
