import Mathlib.Data.List.Induction
import Mathlib.Data.List.Sort
import Mathlib.Logic.Function.Basic
import StoreGuard.Proofs.Text.ByteOrder
import StoreGuard.Store.Basic

namespace StoreGuard

abbrev StoredKey := {key : String // key ≠ ""}

namespace Request

def key? : Request → Option String
  | get key => some key
  | put key _ => some key
  | delete key => some key
  | scan _ => none
  | close => none

def Writes (key : String) : Request → Prop
  | put other _ => other = key
  | delete other => other = key
  | get _ => False
  | scan _ => False
  | close => False

end Request

/-- Of the requests that write the key, the last one puts the value there. -/
def LatestPut (rs : List Request) (key : String) (value : ByteArray) : Prop :=
  ∃ before after, rs = before ++ .put key value :: after ∧ ∀ r ∈ after, ¬r.Writes key

theorem not_latestPut_nil {key : String} {value : ByteArray} : ¬LatestPut [] key value := by
  rintro ⟨before, after, h, -⟩
  exact List.append_ne_nil_of_right_ne_nil _ (List.cons_ne_nil _ _) h.symm

theorem latestPut_concat {rs : List Request} {r : Request} {key : String} {value : ByteArray} :
    LatestPut (rs ++ [r]) key value ↔
      r = .put key value ∨ ¬r.Writes key ∧ LatestPut rs key value := by
  constructor
  · rintro ⟨before, after, h, hlater⟩
    -- Either nothing follows the put, which is then the last request, or that one follows it too.
    rcases List.eq_nil_or_concat after with rfl | ⟨later, last, rfl⟩
    · have hlast : [r] = [.put key value] := (List.append_inj' h rfl).2
      exact Or.inl (List.singleton_inj.1 hlast)
    · rw [List.concat_eq_append] at h hlater
      have hsplit : rs ++ [r] = (before ++ .put key value :: later) ++ [last] := by
        rw [h, List.append_assoc, List.cons_append]
      obtain ⟨hrs, hr⟩ := List.append_inj' hsplit rfl
      rw [List.singleton_inj.1 hr]
      refine Or.inr ⟨hlater last (by simp), before, later, hrs, fun q hq => ?_⟩
      exact hlater q (List.mem_append_left _ hq)
  · rintro (rfl | ⟨hr, before, after, rfl, hlater⟩)
    · exact ⟨rs, [], rfl, by simp⟩
    · refine ⟨before, after ++ [r], by simp, fun q hq => ?_⟩
      rcases List.mem_append.1 hq with hq | hq
      · exact hlater q hq
      · rwa [List.mem_singleton.1 hq]

inductive Machine where
  | closed
  | holding (f : StoredKey → Option ByteArray)

namespace Machine

def fresh : Machine := .holding fun _ => none

/-- The map with another value under a key, or none; nothing is stored under the empty one. -/
def write (f : StoredKey → Option ByteArray) (key : String) (value : Option ByteArray) :
    StoredKey → Option ByteArray :=
  if h : key = "" then f else Function.update f ⟨key, h⟩ value

theorem write_apply (f : StoredKey → Option ByteArray) (key : String) (value : Option ByteArray)
    (other : StoredKey) : write f key value other = if other.1 = key then value else f other := by
  have hother : other.1 ≠ "" := other.2
  unfold write
  split_ifs with hempty hsame hsame
  · exact absurd (hsame.trans hempty) hother
  · rfl
  · rw [Function.update_apply, if_pos (Subtype.ext hsame)]
  · rw [Function.update_apply, if_neg fun he => hsame (congrArg Subtype.val he)]

def next : Machine → Request → Machine
  | .holding f, .put key value => .holding (write f key (some value))
  | .holding f, .delete key => .holding (write f key none)
  | _, .close => .closed
  | m, _ => m

/-- Each live key that begins so stands once in the list, with its value, and the UTF-8 bytes of the
keys increase. -/
structure Lists (f : StoredKey → Option ByteArray) (start : String)
    (l : List (String × ByteArray)) : Prop where
  ascending : l.Pairwise fun a b => Text.bytesOf a.1 < Text.bytesOf b.1
  mem_iff : ∀ key value, (key, value) ∈ l ↔
    start.toList <+: key.toList ∧ ∃ h : key ≠ "", f ⟨key, h⟩ = some value

/-- An empty key is refused in every state, and once the map is closed so is all but closing. -/
inductive Answers : Machine → Request → Outcome → Prop where
  | emptyKey {m : Machine} {r : Request} (h : r.key? = some "") : Answers m r (.error .emptyKey)
  | closed {r : Request} (hkey : r.key? ≠ some "") (hr : r ≠ .close) :
    Answers .closed r (.error .closed)
  | close {m : Machine} : Answers m .close (.ok .done)
  | get {f : StoredKey → Option ByteArray} {key : String} (h : key ≠ "") :
    Answers (.holding f) (.get key) (.ok (.found (f ⟨key, h⟩)))
  | put {f : StoredKey → Option ByteArray} {key : String} {value : ByteArray} (h : key ≠ "") :
    Answers (.holding f) (.put key value) (.ok .done)
  | delete {f : StoredKey → Option ByteArray} {key : String} (h : key ≠ "") :
    Answers (.holding f) (.delete key) (.ok .done)
  | scan {f : StoredKey → Option ByteArray} {start : String} {l : List (String × ByteArray)}
    (h : Lists f start l) : Answers (.holding f) (.scan start) (.ok (.listed l))

/-- The same keys are listed in one way only. -/
theorem Lists.unique {f : StoredKey → Option ByteArray} {start : String}
    {l l' : List (String × ByteArray)} (h : Lists f start l) (h' : Lists f start l') : l = l' := by
  have hirrefl : Std.Irrefl fun a b : String × ByteArray => Text.bytesOf a.1 < Text.bytesOf b.1 :=
    ⟨fun a => List.lt_irrefl _⟩
  apply List.Pairwise.eq_of_mem_iff h.ascending h'.ascending
  rintro ⟨key, value⟩
  rw [h.mem_iff, h'.mem_iff]

theorem Answers.unique {m : Machine} {r : Request} {o o' : Outcome} (h : m.Answers r o)
    (h' : m.Answers r o') : o = o' := by
  cases h <;> cases h' <;> simp_all [Request.key?]
  case scan.scan hl _ hl' => exact hl.unique hl'

theorem next_eq_closed_iff {m : Machine} {r : Request} :
    m.next r = .closed ↔ m = .closed ∨ r = .close := by
  cases m <;> cases r <;> simp [next]

/-- What a map holds after one more request. -/
theorem next_eq_holding {m : Machine} {r : Request} {f : StoredKey → Option ByteArray}
    (h : m.next r = .holding f) :
    ∃ f', m = .holding f' ∧ ∀ (key : StoredKey) (value : ByteArray),
      f key = some value ↔ r = .put key value ∨ ¬r.Writes key ∧ f' key = some value := by
  cases m with
  | closed => cases r <;> cases h
  | holding f' =>
    refine ⟨f', rfl, fun key value => ?_⟩
    cases r with
    | put other new =>
      cases h
      rw [write_apply]
      by_cases hsame : key.1 = other
      · simp [Request.Writes, hsame]
      · simp [Request.Writes, hsame, Ne.symm hsame]
    | delete other =>
      cases h
      rw [write_apply]
      by_cases hsame : key.1 = other
      · simp [Request.Writes, hsame]
      · simp [Request.Writes, hsame, Ne.symm hsame]
    | close => cases h
    | get other => cases h; simp [Request.Writes]
    | scan start => cases h; simp [Request.Writes]

theorem foldl_next_eq_closed_iff {rs : List Request} :
    rs.foldl next fresh = .closed ↔ .close ∈ rs := by
  induction rs using List.reverseRecOn with
  | nil => simp [fresh]
  | append_singleton rs r ih =>
    rw [List.foldl_concat, next_eq_closed_iff, ih, List.mem_append, List.mem_singleton,
      eq_comm (a := r)]

/-- An open map holds the latest puts. -/
theorem foldl_next_eq_holding {rs : List Request} {f : StoredKey → Option ByteArray}
    (h : rs.foldl next fresh = .holding f) (key : StoredKey) (value : ByteArray) :
    f key = some value ↔ LatestPut rs key value := by
  induction rs using List.reverseRecOn generalizing f with
  | nil =>
    cases h
    simp [not_latestPut_nil]
  | append_singleton rs r ih =>
    rw [List.foldl_concat] at h
    obtain ⟨f', hf', hf⟩ := next_eq_holding h
    rw [hf, ih hf', latestPut_concat]

end Machine

end StoreGuard
