import LiveViewer.Session.Request
import Mathlib.Data.List.DropRight

/-!
# Validation is idempotent

Validation trims both texts of a request, and trimming twice trims once: what is left after the
leading blanks are dropped starts with a character that is not blank, and so does the reversed
rest after the trailing blanks are dropped. A validated request therefore validates to itself
(`ConnectRequest.validated_validated`), which is what lets a session's request be connected to
again, by the reconnect timer, without change.
-/

namespace LiveViewer

namespace Text

/-- A prefix of what is left after dropping leading blanks starts with a non-blank, so dropping
blanks keeps it whole. -/
theorem dropWhile_prefix_of_dropWhile {l l₁ l₂ : List Char}
    (h : l₁ ++ l₂ = l.dropWhile isBlank) : l₁.dropWhile isBlank = l₁ := by
  cases l₁ with
  | nil => rfl
  | cons x rest =>
    have hne : l.dropWhile isBlank ≠ [] := by
      rw [← h]
      simp
    have hx := List.head_dropWhile_not isBlank hne
    simp only [← h, List.cons_append, List.head_cons] at hx
    exact List.dropWhile_cons_of_neg (by simp [hx])

theorem trimChars_trimChars (cs : List Char) : trimChars (trimChars cs) = trimChars cs := by
  unfold trimChars
  -- The kept characters, read forwards, are a prefix of `cs` without its leading blanks.
  have hprefix : ((cs.dropWhile isBlank).reverse.dropWhile isBlank).reverse ++
      ((cs.dropWhile isBlank).reverse.takeWhile isBlank).reverse = cs.dropWhile isBlank := by
    rw [← List.reverse_append, List.takeWhile_append_dropWhile, List.reverse_reverse]
  rw [dropWhile_prefix_of_dropWhile hprefix, List.reverse_reverse, List.dropWhile_idempotent]

@[simp] theorem trim_trim (s : String) : trim (trim s) = trim s := by
  simp only [trim, String.toList_ofList, trimChars_trimChars]

end Text

namespace ConnectRequest

/-- What validation answers is a request that validates to itself. -/
theorem validated_validated {r valid : ConnectRequest} (h : r.validated = .ok valid) :
    valid.validated = .ok valid := by
  -- Only a request with a key and an endpoint is validated at all.
  by_cases hk : (Text.trim r.streamKey).isEmpty
  · simp [validated, hk] at h
  by_cases he : (Text.trim r.serverEndpoint).isEmpty
  · simp [validated, hk, he] at h
  simp only [validated, hk, he, Bool.false_eq_true, if_false, Except.ok.injEq] at h
  subst h
  simp [validated, hk, he]

end ConnectRequest

end LiveViewer
