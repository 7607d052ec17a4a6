import Mathlib.Data.List.Basic

/-!
# Options with a type, a length and a value

A `TlvFormat` says how the head of an option is written and read. Strings of options are split by `walk`, which stops
where no head can be read, or at an option whose value is cut off.

- `walk_option`, `walk_stop`, `walk_cut`: the three things that can come next;
- `walk_encode`: options that were written one after the other are read back;
- `mapM_cons_some`, `mapM_append_some`: reading the values of all options.
-/

namespace Dpservice

/-- How types and lengths are written. -/
structure TlvFormat (τ : Type*) where
  /-- The type and the length of the option that a string starts with, and what follows. -/
  readHead : List UInt8 → Option (τ × ℕ × List UInt8)
  writeHead : τ → ℕ → List UInt8
  /-- The types and lengths that can be written. -/
  Fits : τ → ℕ → Prop
  read_write : ∀ {t n} (rest), Fits t n → readHead (writeHead t n ++ rest) = some (t, n, rest)
  read_shorter : ∀ {bs t n rest}, readHead bs = some (t, n, rest) → rest.length < bs.length

namespace TlvFormat

variable {τ : Type*} (fmt : TlvFormat τ)

/-- The complete options of a string, and what is left behind them; `none` where a value is cut off. -/
def walk (bs : List UInt8) : List (τ × List UInt8) × Option (List UInt8) :=
  match _h : fmt.readHead bs with
  | none => ([], some bs)
  | some (t, n, rest) =>
    if rest.length < n then ([], none)
    else
      let next := walk (rest.drop n)
      ((t, rest.take n) :: next.1, next.2)
termination_by bs.length
decreasing_by
  have := fmt.read_shorter _h
  rw [List.length_drop]
  omega

/-- An option as it is written. -/
def encode (o : τ × List UInt8) : List UInt8 := fmt.writeHead o.1 o.2.length ++ o.2

variable {fmt} {bs rest : List UInt8} {t : τ} {n : ℕ}

theorem walk_stop (h : fmt.readHead bs = none) : fmt.walk bs = ([], some bs) := by
  unfold walk
  split
  next => rfl
  next heq => rw [h] at heq; cases heq

/-- The walk ends at an option that is cut off. -/
theorem walk_cut (h : fmt.readHead bs = some (t, n, rest)) (hn : rest.length < n) : fmt.walk bs = ([], none) := by
  unfold walk
  split
  next heq => rw [h] at heq; cases heq
  next heq =>
    rw [h] at heq
    cases heq
    exact if_pos hn

/-- An option, and what follows it. -/
theorem walk_option (h : fmt.readHead bs = some (t, n, rest)) (hn : n ≤ rest.length) :
    fmt.walk bs = ((t, rest.take n) :: (fmt.walk (rest.drop n)).1, (fmt.walk (rest.drop n)).2) := by
  rw [walk]
  split
  next heq => rw [h] at heq; cases heq
  next heq =>
    rw [h] at heq
    cases heq
    exact if_neg (Nat.not_lt.mpr hn)

/-- **What was written is read back**, up to what can not be read as an option. -/
theorem walk_encode (os : List (τ × List UInt8)) (hfits : ∀ o ∈ os, fmt.Fits o.1 o.2.length) (left : List UInt8) :
    fmt.walk (os.flatMap fmt.encode ++ left) = (os ++ (fmt.walk left).1, (fmt.walk left).2) := by
  induction os with
  | nil => rfl
  | cons o os ih =>
    obtain ⟨hfit, hfits⟩ := List.forall_mem_cons.mp hfits
    have hread : fmt.readHead ((o :: os).flatMap fmt.encode ++ left) =
        some (o.1, o.2.length, o.2 ++ (os.flatMap fmt.encode ++ left)) := by
      rw [List.flatMap_cons, encode, List.append_assoc, List.append_assoc]
      exact fmt.read_write _ hfit
    rw [walk_option hread (by rw [List.length_append]; omega), List.take_left, List.drop_left, ih hfits]
    rfl

/-- A single option. -/
theorem walk_encode_single {o : τ × List UInt8} (hfit : fmt.Fits o.1 o.2.length) (hnil : fmt.readHead [] = none) :
    fmt.walk (fmt.encode o) = ([o], some []) := by
  have hwalk := walk_encode [o] (List.forall_mem_singleton.mpr hfit) []
  rwa [walk_stop hnil, List.flatMap_singleton, List.append_nil, List.append_nil] at hwalk

end TlvFormat

/-! ## Values -/

section Values

variable {α β : Type*} {f : α → Option β} {a : α} {b : β} {as as' : List α} {bs bs' : List β}

theorem mapM_cons_some (h : f a = some b) (hs : as.mapM f = some bs) : (a :: as).mapM f = some (b :: bs) := by
  rw [List.mapM_cons, h, hs]
  rfl

theorem mapM_append_some (h : as.mapM f = some bs) (h' : as'.mapM f = some bs') :
    (as ++ as').mapM f = some (bs ++ bs') := by
  rw [List.mapM_append, h, h']
  rfl

end Values

end Dpservice
