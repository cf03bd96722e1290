/-!
Line ends. A text may end its lines in any of three ways; here they are all made one.
-/
namespace GuildCards.Text

def unifyNewlines : List Char → List Char
  | '\r' :: '\n' :: r => '\n' :: unifyNewlines r
  | c :: r => (if c = '\r' then '\n' else c) :: unifyNewlines r
  | [] => []

theorem unifyNewlines_of_no_return {s : List Char} (h : '\r' ∉ s) : unifyNewlines s = s := by
  fun_induction unifyNewlines s with
  | case1 => simp at h
  | case2 c r _ ih =>
    have hc : c ≠ '\r' := fun e => h (e ▸ List.mem_cons_self)
    rw [if_neg hc, ih fun e => h (List.mem_cons_of_mem c e)]
  | case3 => rfl

end GuildCards.Text
