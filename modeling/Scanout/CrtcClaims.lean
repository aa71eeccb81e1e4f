import Scanout.KernelResource
import Scanout.OutputEvent

/-!
# CRTC claims

A table of which output owns which CRTC of a device. The first claim on a CRTC wins and
holds until its owner releases everything it has; a CRTC never has two owners.
-/

namespace Scanout

/-- The claimed CRTCs with their owners, the latest claim first. -/
structure CrtcClaims where
  entries : List (CrtcHandle × OutputId)
  nodup : (entries.map Prod.fst).Nodup

namespace CrtcClaims

def empty : CrtcClaims := ⟨[], by simp⟩

instance : Inhabited CrtcClaims := ⟨empty⟩

instance : DecidableEq CrtcClaims := fun a b =>
  decidable_of_iff (a.entries = b.entries) ⟨fun h => by cases a; cases b; cases h; rfl,
    fun h => h ▸ rfl⟩

def owner (t : CrtcClaims) (crtc : CrtcHandle) : Option OutputId := t.entries.lookup crtc

def isClaimed (t : CrtcClaims) (crtc : CrtcHandle) : Bool := (t.owner crtc).isSome

theorem lookup_eq_none_iff {crtc : CrtcHandle} {es : List (CrtcHandle × OutputId)} :
    es.lookup crtc = none ↔ crtc ∉ es.map Prod.fst := by
  simp [List.lookup_eq_none_iff]; grind

theorem notMem_of_owner_eq_none {t : CrtcClaims} {crtc : CrtcHandle}
    (h : t.owner crtc = none) : crtc ∉ t.entries.map Prod.fst :=
  lookup_eq_none_iff.1 h

/-- Adds a claim on a CRTC that nobody owns. -/
def add (t : CrtcClaims) (crtc : CrtcHandle) (id : OutputId) (h : t.owner crtc = none) :
    CrtcClaims where
  entries := (crtc, id) :: t.entries
  nodup := by
    rw [List.map_cons, List.nodup_cons]
    exact ⟨notMem_of_owner_eq_none h, t.nodup⟩

/-- Claims a CRTC for an output, and tells whether it was free. -/
def claim (t : CrtcClaims) (crtc : CrtcHandle) (id : OutputId) : Bool × CrtcClaims :=
  match h : t.owner crtc with
  | some _ => (false, t)
  | none => (true, t.add crtc id h)

def release (t : CrtcClaims) (id : OutputId) : CrtcClaims where
  entries := t.entries.filter (·.2 ≠ id)
  nodup := t.nodup.sublist (List.Sublist.map _ List.filter_sublist)

/-- The CRTCs of an output, in ascending order of their handles. -/
def claimedBy (t : CrtcClaims) (id : OutputId) : List CrtcHandle :=
  ((t.entries.filter (·.2 = id)).map Prod.fst).mergeSort (·.id ≤ ·.id)

def size (t : CrtcClaims) : Nat := t.entries.length

def isEmpty (t : CrtcClaims) : Bool := t.entries.isEmpty

@[simp] theorem owner_empty (crtc : CrtcHandle) : empty.owner crtc = none := rfl

theorem owner_add (t : CrtcClaims) (crtc : CrtcHandle) (id : OutputId) (h : t.owner crtc = none)
    (c : CrtcHandle) : (t.add crtc id h).owner c = if c = crtc then some id else t.owner c := by
  by_cases hc : c = crtc
  · simp [add, owner, hc]
  · simp [add, owner, List.lookup_cons, hc, beq_eq_false_iff_ne.2 hc]

end CrtcClaims
end Scanout
