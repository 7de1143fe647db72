import Mathlib.Data.List.Basic

/-!
# Cutting a stream into blocks, and the window of its last elements

Two things done to a stream that arrives in pieces: it is cut into blocks of a fixed size, the last incomplete block being
kept for the next piece (`cut`), and its last elements are kept in a window (`keepLast`).
-/

namespace Blocks

variable {α : Type*}

/-- Cutting blocks of `n` off the front of a list, at most `fuel` of them: the blocks, and what is left. -/
def cutFuel (n : Nat) : Nat → List α → List (List α) × List α
  | 0, xs => ([], xs)
  | fuel + 1, xs =>
    if n ≤ xs.length then
      let r := cutFuel n fuel (xs.drop n)
      (xs.take n :: r.1, r.2)
    else ([], xs)

/-- Cutting blocks of `n ≥ 1` off the front of a list for as long as it holds one. A list holds no more blocks than
elements, so its length is enough fuel. -/
def cut (n : Nat) (xs : List α) : List (List α) × List α := cutFuel n xs.length xs

/-- The same loop with a bound on its turns, the one that leaves it included: nothing, when they are used up before. -/
def cutTurns (n : Nat) : Nat → List α → Option (List (List α) × List α)
  | 0, _ => none
  | turns + 1, xs =>
    if n ≤ xs.length then (cutTurns n turns (xs.drop n)).map fun r => (xs.take n :: r.1, r.2) else some ([], xs)

/-- The last `n` elements of a list, or all of it when it holds no more. -/
def keepLast (n : Nat) (xs : List α) : List α := if n < xs.length then xs.drop (xs.length - n) else xs

/-- The length of a list of blocks of one size. -/
theorem length_flatten_of_blocks {n : Nat} {fs : List (List α)} (h : ∀ f ∈ fs, f.length = n) :
    fs.flatten.length = n * fs.length := by
  induction fs with
  | nil => simp
  | cons f fs ih =>
    have hf := h f List.mem_cons_self
    have ih := ih fun g hg => h g (List.mem_cons_of_mem f hg)
    rw [List.flatten_cons, List.length_append, hf, ih, List.length_cons, Nat.mul_succ, Nat.add_comm]

/-- Enough fuel cuts a list of blocks, and less than a block after them, into those blocks and the rest. -/
theorem cutFuel_flatten_append {n : Nat} {fs : List (List α)} {rest : List α} (h : ∀ f ∈ fs, f.length = n)
    (hrest : rest.length < n) (fuel : Nat) (hfuel : fs.length ≤ fuel) :
    cutFuel n fuel (fs.flatten ++ rest) = (fs, rest) := by
  induction fs generalizing fuel with
  | nil =>
    cases fuel with
    | zero => rfl
    | succ k => simp [cutFuel, Nat.not_le.2 hrest]
  | cons f fs ih =>
    have hf : f.length = n := h f List.mem_cons_self
    obtain ⟨k, rfl⟩ : ∃ k, fuel = k + 1 := ⟨fuel - 1, by simp at hfuel; omega⟩
    have ih := ih (fun g hg => h g (List.mem_cons_of_mem f hg)) k (by simpa using hfuel)
    have htake : (f ++ (fs.flatten ++ rest)).take n = f := by rw [← hf]; exact List.take_left
    have hdrop : (f ++ (fs.flatten ++ rest)).drop n = fs.flatten ++ rest := by rw [← hf]; exact List.drop_left
    have hle : n ≤ (f ++ (fs.flatten ++ rest)).length := by rw [List.length_append, hf]; exact Nat.le_add_right _ _
    rw [List.flatten_cons, List.append_assoc, cutFuel, if_pos hle]
    simp only [htake, hdrop, ih]

/-- The blocks and the rest are determined by what they are. -/
theorem cut_unique {n : Nat} {fs : List (List α)} {rest : List α} (h : ∀ f ∈ fs, f.length = n) (hrest : rest.length < n) :
    cut n (fs.flatten ++ rest) = (fs, rest) := by
  refine cutFuel_flatten_append h hrest _ ?_
  rw [List.length_append, length_flatten_of_blocks h]
  exact Nat.le_trans (Nat.le_mul_of_pos_left _ (by omega)) (Nat.le_add_right _ _)

/-- Less than a block stays as it is. -/
theorem cut_of_lt {n : Nat} {xs : List α} (h : xs.length < n) : cut n xs = ([], xs) := by
  have hblocks : ∀ f ∈ ([] : List (List α)), f.length = n := fun f hf => absurd hf List.not_mem_nil
  exact cut_unique hblocks h

/-- Cutting a list of blocks gives those blocks and leaves nothing. -/
theorem cut_flatten {n : Nat} (hn : 0 < n) {fs : List (List α)} (h : ∀ f ∈ fs, f.length = n) :
    cut n fs.flatten = (fs, []) := by
  have hrest : ([] : List α).length < n := hn
  have hcut := cut_unique h hrest
  rwa [List.append_nil] at hcut

/-- What is cut off are blocks. -/
theorem length_of_mem_cutFuel {n : Nat} (fuel : Nat) {xs f : List α} (h : f ∈ (cutFuel n fuel xs).1) : f.length = n := by
  induction fuel generalizing xs with
  | zero => simp [cutFuel] at h
  | succ fuel ih =>
    rw [cutFuel] at h
    split at h
    · rcases List.mem_cons.1 h with rfl | h
      · exact List.length_take_of_le ‹_›
      · exact ih h
    · simp at h

/-- Every block has the full length. -/
theorem length_of_mem_cut {n : Nat} {xs f : List α} (h : f ∈ (cut n xs).1) : f.length = n := length_of_mem_cutFuel _ h

/-- The loop ends, and gives the blocks and the rest: each turn but the last takes a block off. -/
theorem cutTurns_eq {n : Nat} (hn : 0 < n) {turns fuel : Nat} {xs : List α} (hfuel : xs.length ≤ fuel)
    (hturns : xs.length < turns) : cutTurns n turns xs = some (cutFuel n fuel xs) := by
  induction turns generalizing fuel xs with
  | zero => exact absurd hturns (Nat.not_lt_zero _)
  | succ turns ih =>
    rw [cutTurns]
    split
    · rename_i hle
      obtain ⟨k, rfl⟩ : ∃ k, fuel = k + 1 := ⟨fuel - 1, by omega⟩
      have hdrop : (xs.drop n).length = xs.length - n := List.length_drop
      have hlength : (xs.drop n).length ≤ k := by omega
      rw [ih hlength (by omega), cutFuel, if_pos hle, Option.map_some]
    · rename_i hlt
      cases fuel with
      | zero => rfl
      | succ fuel => rw [cutFuel, if_neg hlt]

/-- The blocks and the rest are the whole list, and the rest is shorter than a block. -/
theorem cutFuel_spec {n : Nat} (hn : 0 < n) (fuel : Nat) {xs : List α} (hfuel : xs.length ≤ fuel) :
    (cutFuel n fuel xs).1.flatten ++ (cutFuel n fuel xs).2 = xs ∧ (cutFuel n fuel xs).2.length < n := by
  induction fuel generalizing xs with
  | zero =>
    obtain rfl : xs = [] := List.length_eq_zero_iff.1 (Nat.le_zero.1 hfuel)
    exact ⟨rfl, hn⟩
  | succ fuel ih =>
    rw [cutFuel]
    split
    · have hdrop : (xs.drop n).length ≤ fuel := by rw [List.length_drop]; omega
      obtain ⟨hflat, hrest⟩ := ih hdrop
      refine ⟨?_, hrest⟩
      rw [List.flatten_cons, List.append_assoc, hflat, List.take_append_drop]
    · exact ⟨rfl, by dsimp only; omega⟩

/-- Nothing is lost or moved: the blocks and what is left are the list. -/
theorem cut_append_rest {n : Nat} (hn : 0 < n) (xs : List α) : (cut n xs).1.flatten ++ (cut n xs).2 = xs :=
  (cutFuel_spec hn _ (Nat.le_refl _)).1

/-- What is left is less than a block. -/
theorem length_cut_rest {n : Nat} (hn : 0 < n) (xs : List α) : (cut n xs).2.length < n :=
  (cutFuel_spec hn _ (Nat.le_refl _)).2

/-- Cutting does not depend on how the list arrives: what is left of one piece goes before the next. -/
theorem cut_append {n : Nat} (hn : 0 < n) (xs ys : List α) :
    cut n (xs ++ ys) = ((cut n xs).1 ++ (cut n ((cut n xs).2 ++ ys)).1, (cut n ((cut n xs).2 ++ ys)).2) := by
  have hsplit : xs ++ ys =
      ((cut n xs).1 ++ (cut n ((cut n xs).2 ++ ys)).1).flatten ++ (cut n ((cut n xs).2 ++ ys)).2 := by
    rw [List.flatten_append, List.append_assoc, cut_append_rest hn, ← List.append_assoc, cut_append_rest hn]
  have hblocks : ∀ f ∈ (cut n xs).1 ++ (cut n ((cut n xs).2 ++ ys)).1, f.length = n := by
    intro f hf
    rcases List.mem_append.1 hf with hf | hf
    · exact length_of_mem_cut hf
    · exact length_of_mem_cut hf
  conv_lhs => rw [hsplit]
  exact cut_unique hblocks (length_cut_rest hn _)

/-- Cutting looks at nothing but places. -/
theorem cut_map {β : Type*} {n : Nat} (hn : 0 < n) (f : α → β) (xs : List α) :
    cut n (xs.map f) = ((cut n xs).1.map (List.map f), (cut n xs).2.map f) := by
  have hsplit : xs.map f = ((cut n xs).1.map (List.map f)).flatten ++ (cut n xs).2.map f := by
    rw [← List.map_flatten, ← List.map_append, cut_append_rest hn]
  have hblocks : ∀ g ∈ (cut n xs).1.map (List.map f), g.length = n := by
    intro g hg
    obtain ⟨b, hb, rfl⟩ := List.mem_map.1 hg
    rw [List.length_map, length_of_mem_cut hb]
  conv_lhs => rw [hsplit]
  exact cut_unique hblocks (by rw [List.length_map]; exact length_cut_rest hn xs)

/-- Dropping whole blocks. -/
theorem drop_flatten {n : Nat} {fs : List (List α)} (h : ∀ f ∈ fs, f.length = n) (k : Nat) :
    fs.flatten.drop (n * k) = (fs.drop k).flatten := by
  induction k generalizing fs with
  | zero => simp
  | succ k ih =>
    cases fs with
    | nil => simp
    | cons f fs =>
      have hf : f.length = n := h f List.mem_cons_self
      have hsplit : n * (k + 1) = f.length + n * k := by rw [hf, Nat.mul_succ, Nat.add_comm]
      rw [List.flatten_cons, hsplit, List.drop_append, List.drop_succ_cons,
        ← ih fun g hg => h g (List.mem_cons_of_mem f hg)]
      simp

/-- How many blocks there are. -/
theorem length_cut {n : Nat} (hn : 0 < n) (xs : List α) : (cut n xs).1.length = xs.length / n := by
  have hlength := congrArg List.length (cut_append_rest hn xs)
  rw [List.length_append, length_flatten_of_blocks fun f hf => length_of_mem_cut hf] at hlength
  rw [← hlength, Nat.mul_add_div hn, Nat.div_eq_of_lt (length_cut_rest hn xs), Nat.add_zero]

/-- The block with the number `k` is where it should be. -/
theorem getElem?_cut {n : Nat} (hn : 0 < n) (xs : List α) {k : Nat} (hk : n * (k + 1) ≤ xs.length) :
    (cut n xs).1[k]? = some ((xs.drop (n * k)).take n) := by
  have hblocks : ∀ f ∈ (cut n xs).1, f.length = n := fun f hf => length_of_mem_cut hf
  have hlt : k < (cut n xs).1.length := by
    rw [length_cut hn]
    exact (Nat.le_div_iff_mul_le hn).2 (by rw [Nat.mul_comm]; exact hk)
  have hle : n * k ≤ (cut n xs).1.flatten.length := by
    rw [length_flatten_of_blocks hblocks]
    exact Nat.mul_le_mul_left n (Nat.le_of_lt hlt)
  have hdrop : xs.drop (n * k) = (cut n xs).1[k] ++ (((cut n xs).1.drop (k + 1)).flatten ++ (cut n xs).2) := by
    conv_lhs => rw [← cut_append_rest hn xs]
    rw [List.drop_append_of_le_length hle, drop_flatten hblocks, List.drop_eq_getElem_cons hlt, List.flatten_cons,
      List.append_assoc]
  have hsize : (cut n xs).1[k].length = n := hblocks _ (List.getElem_mem hlt)
  rw [List.getElem?_eq_getElem hlt, hdrop, List.take_append_of_le_length (Nat.le_of_eq hsize.symm),
    List.take_of_length_le (Nat.le_of_eq hsize)]

/-- `fs` and `rest` are the blocks of `n` in `xs`, each in its place, and what is left at the end. -/
structure Framed (n : Nat) (xs : List α) (fs : List (List α)) (rest : List α) : Prop where
  count : fs.length = xs.length / n
  block : ∀ k, n * (k + 1) ≤ xs.length → fs[k]? = some ((xs.drop (n * k)).take n)
  remains : rest = xs.drop (n * (xs.length / n))
  short : rest.length < n

/-- Cutting a list into blocks frames it. -/
theorem framed_cut {n : Nat} (hn : 0 < n) (xs : List α) : Framed n xs (cut n xs).1 (cut n xs).2 := by
  refine ⟨length_cut hn xs, fun k hk => getElem?_cut hn xs hk, ?_, length_cut_rest hn xs⟩
  have hblocks : (cut n xs).1.flatten.length = n * (xs.length / n) := by
    rw [length_flatten_of_blocks fun f hf => length_of_mem_cut hf, length_cut hn]
  conv_rhs => rw [← cut_append_rest hn xs]
  rw [List.length_append, hblocks, Nat.mul_add_div hn, Nat.div_eq_of_lt (length_cut_rest hn xs), Nat.add_zero, ← hblocks,
    List.drop_left]

/-- A block is a part of the list. -/
theorem infix_of_mem_cut {n : Nat} (hn : 0 < n) {xs f : List α} (h : f ∈ (cut n xs).1) : f <:+: xs := by
  obtain ⟨before, after, hsplit⟩ := List.append_of_mem h
  refine ⟨before.flatten, after.flatten ++ (cut n xs).2, ?_⟩
  have hall := cut_append_rest hn xs
  rw [hsplit, List.flatten_append, List.flatten_cons] at hall
  simpa only [List.append_assoc] using hall

/-- Keeping the last elements is dropping the ones before. -/
theorem keepLast_eq_drop (n : Nat) (xs : List α) : keepLast n xs = xs.drop (xs.length - n) := by
  unfold keepLast
  split
  · rfl
  · rw [Nat.sub_eq_zero_of_le (by omega), List.drop_zero]

/-- The window of the last `n * k` elements of a list of blocks of `n` is its last `k` blocks. -/
theorem keepLast_flatten {n : Nat} {fs : List (List α)} (h : ∀ f ∈ fs, f.length = n) (k : Nat) :
    keepLast (n * k) fs.flatten = (keepLast k fs).flatten := by
  rw [keepLast_eq_drop, keepLast_eq_drop, length_flatten_of_blocks h, ← Nat.mul_sub, drop_flatten h]

/-- A window of the last `n` elements, moved along by what is appended to it, is the window of the whole stream. -/
theorem keepLast_append_keepLast (n : Nat) (xs ys : List α) :
    keepLast n (keepLast n xs ++ ys) = keepLast n (xs ++ ys) := by
  by_cases hn : n < xs.length
  · have hl : (xs.drop (xs.length - n)).length = n := by rw [List.length_drop]; omega
    rw [keepLast_eq_drop n xs, keepLast_eq_drop, keepLast_eq_drop, List.length_append, List.length_append, hl,
      Nat.add_sub_cancel_left, List.drop_append, List.drop_append, List.drop_drop, hl,
      show xs.length - n + ys.length = xs.length + ys.length - n by omega]
    congr 2
    omega
  · have hx : keepLast n xs = xs := if_neg hn
    rw [hx]

@[simp] theorem length_keepLast (n : Nat) (xs : List α) : (keepLast n xs).length = min n xs.length := by
  rw [keepLast_eq_drop, List.length_drop]
  omega

/-- A window of a larger window. -/
theorem keepLast_keepLast {m n : Nat} (h : m ≤ n) (xs : List α) : keepLast m (keepLast n xs) = keepLast m xs := by
  rw [keepLast_eq_drop m, keepLast_eq_drop m, length_keepLast, keepLast_eq_drop n, List.drop_drop]
  congr 1
  omega

/-- What is kept was there. -/
theorem mem_of_mem_keepLast {n : Nat} {xs : List α} {x : α} (h : x ∈ keepLast n xs) : x ∈ xs := by
  rw [keepLast_eq_drop] at h
  exact List.mem_of_mem_drop h

/-- The last element is in every window. -/
theorem mem_keepLast_concat {n : Nat} (hn : 0 < n) (xs : List α) (x : α) : x ∈ keepLast n (xs ++ [x]) := by
  rw [keepLast_eq_drop, List.length_append, List.length_singleton, List.drop_append_of_le_length (by omega)]
  exact List.mem_append_right _ (List.mem_singleton_self x)

/-- The window, read element by element. -/
theorem map_getD_range {n : Nat} {xs : List α} (h : n ≤ xs.length) (a : α) :
    ((List.range n).map fun i => xs.getD (xs.length - n + i) a) = keepLast n xs := by
  refine List.ext_getElem ?_ fun i hi hi' => ?_
  · rw [List.length_map, List.length_range, length_keepLast, Nat.min_eq_left h]
  · have hin : xs.length - n + i < xs.length := by
      rw [List.length_map, List.length_range] at hi
      omega
    simp [keepLast_eq_drop, List.getElem?_eq_getElem hin]

end Blocks
