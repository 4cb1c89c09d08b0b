import RequestRouter.Regex.Basic

/-!
# The width of a term

How many characters a term takes, as far as its shape tells. A look-behind steps back by the width
of its body, so that body must have one width; a repeated group takes as much as the group did.
-/

namespace RequestRouter.Width

def zero : Width := ⟨0, some 0⟩

def one : Width := ⟨1, some 1⟩

/-- One term after another. -/
def add (a b : Width) : Width :=
  ⟨a.least + b.least, match a.most, b.most with
    | some m, some n => some (m + n)
    | _, _ => none⟩

/-- One of two terms. -/
def join (a b : Width) : Width :=
  ⟨min a.least b.least, match a.most, b.most with
    | some m, some n => some (max m n)
    | _, _ => none⟩

/-- Repetitions of a term; what takes nothing takes nothing however often. -/
def times (a : Width) (least : Nat) (most : Option Nat) : Width :=
  ⟨a.least * least, match a.most, most with
    | some 0, _ => some 0
    | _, some 0 => some 0
    | some m, some n => some (m * n)
    | _, _ => none⟩

/-- The term takes one number of characters only. -/
def fixed (a : Width) : Bool := a.most == some a.least

end Width

/-- The width of a term, where `groups` gives the widths of the groups it can refer to. -/
def Regex.width (groups : Nat → Width) : Regex → Width
  | .empty => .zero
  | .one _ => .one
  | .place _ => .zero
  | .seq a b => (a.width groups).add (b.width groups)
  | .alternative r => r.width groups
  | .either a b => (a.width groups).join (b.width groups)
  | .group _ r => r.width groups
  | .loop _ least most r => (r.width groups).times least most
  | .atomic r => r.width groups
  | .look _ _ _ => .zero
  | .again _ n => groups n
  | .ifGroup _ a b => (a.width groups).join (b.width groups)

end RequestRouter
