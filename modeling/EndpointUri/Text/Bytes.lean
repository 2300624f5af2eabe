/-!
Byte measures of text. Offsets into a text count the bytes of its UTF-8 form, so a cut is
possible only between characters; an offset inside a character is backed off to its start.
-/
namespace EndpointUri.Text

/-- Offsets are machine words; this is the first value that does not fit one. -/
def offsetLimit : Nat := UInt64.size

/-- The greatest offset. It lies past the end of every text. -/
def maxOffset : Nat := offsetLimit - 1

def byteLength : List Char → Nat
  | [] => 0
  | c :: cs => c.utf8Size + byteLength cs

@[simp] theorem byteLength_nil : byteLength [] = 0 := rfl

@[simp] theorem byteLength_cons (c : Char) (cs : List Char) :
    byteLength (c :: cs) = c.utf8Size + byteLength cs := rfl

@[simp] theorem byteLength_append (xs ys : List Char) :
    byteLength (xs ++ ys) = byteLength xs + byteLength ys := by
  induction xs with
  | nil => simp
  | cons c cs ih => simp [ih, Nat.add_assoc]

/-- The longest run of leading characters that fits in `budget` bytes. -/
def takeBytes : Nat → List Char → List Char
  | _, [] => []
  | budget, c :: cs =>
    if c.utf8Size ≤ budget then c :: takeBytes (budget - c.utf8Size) cs else []

theorem takeBytes_append (front back : List Char) :
    takeBytes (byteLength front) (front ++ back) = front := by
  induction front with
  | nil =>
    cases back with
    | nil => rfl
    | cons c cs =>
      have positive := c.utf8Size_pos
      rw [byteLength_nil, List.nil_append, takeBytes, if_neg (by omega)]
  | cons c cs ih =>
    rw [byteLength_cons, List.cons_append, takeBytes, if_pos (by omega), Nat.add_sub_cancel_left, ih]

/-- A front that is long enough is all that counts. -/
theorem takeBytes_front {n : Nat} {front : List Char} (le : n ≤ byteLength front)
    (back : List Char) : takeBytes n (front ++ back) = takeBytes n front := by
  induction front generalizing n with
  | nil =>
    obtain rfl : n = 0 := Nat.le_zero.mp le
    exact takeBytes_append [] back
  | cons c cs ih =>
    rw [byteLength_cons] at le
    rw [List.cons_append, takeBytes, takeBytes]
    split
    · rw [ih (by omega)]
    · rfl

theorem takeBytes_past {n : Nat} {front : List Char} (le : byteLength front ≤ n)
    (back : List Char) :
    takeBytes n (front ++ back) = front ++ takeBytes (n - byteLength front) back := by
  induction front generalizing n with
  | nil => rfl
  | cons c cs ih =>
    rw [byteLength_cons] at le ⊢
    rw [List.cons_append, takeBytes, if_pos (by omega), ih (by omega), Nat.sub_sub, List.cons_append]

theorem takeBytes_all {n : Nat} {cs : List Char} (le : byteLength cs ≤ n) :
    takeBytes n cs = cs := by
  induction cs generalizing n with
  | nil => rfl
  | cons c cs ih =>
    rw [byteLength_cons] at le
    rw [takeBytes, if_pos (by omega), ih (by omega)]

theorem takeBytes_prefix (n : Nat) (cs : List Char) : takeBytes n cs <+: cs := by
  induction cs generalizing n with
  | nil => exact List.prefix_rfl
  | cons c cs ih =>
    rw [takeBytes]
    split
    · exact List.cons_prefix_cons.mpr ⟨rfl, ih _⟩
    · exact List.nil_prefix

theorem takeBytes_mono {p q : Nat} (le : p ≤ q) (cs : List Char) :
    takeBytes p cs <+: takeBytes q cs := by
  induction cs generalizing p q with
  | nil => exact List.prefix_rfl
  | cons c cs ih =>
    rw [takeBytes, takeBytes]
    by_cases fits : c.utf8Size ≤ p
    · rw [if_pos fits, if_pos (Nat.le_trans fits le)]
      exact List.cons_prefix_cons.mpr ⟨rfl, ih (Nat.sub_le_sub_right le _)⟩
    · rw [if_neg fits]
      exact List.nil_prefix

/-- Cuts at a byte offset. There is no cut inside a character or past the end. -/
def cut? : Nat → List Char → Option (List Char × List Char)
  | 0, cs => some ([], cs)
  | _ + 1, [] => none
  | n + 1, c :: cs =>
    if c.utf8Size ≤ n + 1 then
      (cut? (n + 1 - c.utf8Size) cs).map fun (front, back) => (c :: front, back)
    else none

/-- A cut loses nothing, and its front has the length asked for. -/
theorem cut?_eq_some {n : Nat} {cs front back : List Char}
    (h : cut? n cs = some (front, back)) : front ++ back = cs ∧ byteLength front = n := by
  induction cs generalizing n front back with
  | nil =>
    cases n with
    | zero =>
      simp only [cut?, Option.some.injEq, Prod.mk.injEq] at h
      obtain ⟨rfl, rfl⟩ := h
      simp
    | succ n => simp [cut?] at h
  | cons c cs ih =>
    cases n with
    | zero =>
      simp only [cut?, Option.some.injEq, Prod.mk.injEq] at h
      obtain ⟨rfl, rfl⟩ := h
      simp
    | succ n =>
      rw [cut?] at h
      split at h
      next fits =>
        obtain ⟨⟨f, b⟩, hcut, hpair⟩ := Option.map_eq_some_iff.1 h
        simp only [Prod.mk.injEq] at hpair
        obtain ⟨rfl, rfl⟩ := hpair
        obtain ⟨happ, hlen⟩ := ih hcut
        exact ⟨by simp [happ], by rw [byteLength_cons, hlen]; omega⟩
      next => contradiction

/-- The greatest character boundary of `text` that is at most `offset`. -/
def clamp (text : String) (offset : Nat) : Nat :=
  byteLength (takeBytes offset text.toList)

theorem clamp_le (text : String) (offset : Nat) : clamp text offset ≤ offset := by
  unfold clamp
  induction text.toList generalizing offset with
  | nil => exact Nat.zero_le _
  | cons c cs ih =>
    rw [takeBytes]
    split
    · have rest := ih (offset - c.utf8Size)
      rw [byteLength_cons]
      omega
    · exact Nat.zero_le _

end EndpointUri.Text
