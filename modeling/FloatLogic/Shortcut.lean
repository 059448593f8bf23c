/-!
# Shortcuts of comparisons

A comparison of two trees may be settled before all nodes are visited: two
handles to one stored object are recognised at once, and two trees with
different digests differ.  A shortcut bundles the two tests; it is sound when it
recognises equal values only.  A digest is a function of the value, so unequal
digests always mean unequal values.
-/

namespace FloatLogic

/-- The tests that may settle a comparison early. -/
structure Shortcut (α : Type) where
  recognised : α → α → Bool
  digest : α → UInt64

namespace Shortcut

/-- Only equal values are recognised. -/
def Sound {α : Type} (shortcut : Shortcut α) : Prop :=
  ∀ first second, shortcut.recognised first second = true → first = second

/-- Compare digests and recognise nothing. -/
def byDigest {α : Type} (digest : α → UInt64) : Shortcut α := ⟨fun _ _ => false, digest⟩

theorem sound_byDigest {α : Type} (digest : α → UInt64) : (byDigest digest).Sound := by
  intro first second recognised
  cases recognised

end Shortcut

end FloatLogic
