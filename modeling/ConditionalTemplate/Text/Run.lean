/-!
# Runs of characters

A run is taken off the front of a text as far as its characters have a property.
-/

namespace ConditionalTemplate.Text

/-- Takes a run of at least one character off the front of a text. -/
def readRun? (p : Char → Bool) (s : List Char) : Option (List Char × List Char) :=
  if s.takeWhile p = [] then none else some (s.takeWhile p, s.dropWhile p)

theorem eq_append_of_readRun? {p : Char → Bool} {s run rest : List Char}
    (h : readRun? p s = some (run, rest)) : s = run ++ rest := by
  unfold readRun? at h
  split at h
  · cases h
  · obtain ⟨rfl, rfl⟩ := Prod.mk.inj (Option.some.inj h)
    exact List.takeWhile_append_dropWhile.symm

end ConditionalTemplate.Text
