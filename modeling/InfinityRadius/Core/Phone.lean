import InfinityRadius.Core.Payload

/-!
# Tanzania mobile numbers

`core/phone.py`: the three formats a number is typed in, and the one it is stored in.
-/

namespace InfinityRadius.Phone

open Payload

/-- `[67]\d{8}`, the digits being any Unicode decimal digits. -/
def isSubscriber : List Char → Bool
  | first :: rest =>
    ['6', '7'].contains first && rest.length == 8 && rest.all fun c => (digit c).isSome
  | [] => false

/-- The subscriber number after `0`, `255` or `+255`. -/
def subscriberOf : List Char → Option (List Char)
  | '0' :: rest => some rest
  | '+' :: '2' :: '5' :: '5' :: rest => some rest
  | '2' :: '5' :: '5' :: rest => some rest
  | _ => none

def cleaned (raw : String) : List Char :=
  (stripChars raw.toList).filter fun c => !(isSpace c || ['-', '(', ')'].contains c)

/-- The canonical `255XXXXXXXXX` form, or nothing where `ValueError` is raised. -/
def normalizeTzPhone (raw : String) : Option String :=
  ((subscriberOf (cleaned raw)).filter isSubscriber).map fun subscriber =>
    "255" ++ String.ofList subscriber

/-- The text of that `ValueError`. -/
def invalidPhone (raw : String) : String :=
  "Invalid Tanzania phone number: " ++ reprText raw ++
    " (expected 07XXXXXXXX, +2557XXXXXXXX, or 2557XXXXXXXX)"

example : normalizeTzPhone " 0712-345 678" = some "255712345678" := by decide +kernel

theorem storable_of_isSubscriber {subscriber : List Char}
    (h : isSubscriber subscriber = true) : storable (String.ofList subscriber) = true := by
  cases subscriber with
  | nil => cases h
  | cons first rest =>
    simp only [isSubscriber, Bool.and_eq_true, List.all_eq_true] at h
    obtain ⟨⟨hfirst, -⟩, hrest⟩ := h
    rw [storable, String.toList_ofList, Bool.not_eq_true', ← Bool.not_eq_true,
      List.contains_iff_mem, List.mem_cons]
    rintro (hzero | hzero)
    · rw [← hzero] at hfirst
      exact absurd hfirst (by decide)
    · exact absurd (hrest _ hzero) (by decide)

theorem storable_normalizeTzPhone {raw phone : String}
    (h : normalizeTzPhone raw = some phone) : storable phone = true := by
  obtain ⟨subscriber, hsubscriber, rfl⟩ := Option.map_eq_some_iff.mp h
  have hvalid := (Option.filter_eq_some_iff.mp hsubscriber).2
  rw [storable_append, storable_of_isSubscriber hvalid, Bool.and_true]
  decide +kernel

end InfinityRadius.Phone
