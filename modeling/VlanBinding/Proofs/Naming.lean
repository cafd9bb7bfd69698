import Mathlib.Data.List.Basic
import VlanBinding.Fabric.Reference
import VlanBinding.Integration.Attachment

/-!
Names of interfaces. A name tells the attachment that it was made for if the id of the network has
no underscore, as no id that Neutron makes has one.
-/

namespace VlanBinding.Integration

open VlanBinding.Fabric

/-- What stands before the first separator, and what stands behind it. -/
theorem split_at_separator {c : Char} {xs ys us vs : List Char} (hxs : c ∉ xs)
    (hys : c ∉ ys) (hsame : xs ++ c :: us = ys ++ c :: vs) : xs = ys ∧ us = vs := by
  induction xs generalizing ys with
  | nil =>
      cases ys with
      | nil => exact ⟨rfl, (List.cons.inj hsame).2⟩
      | cons y ys =>
          have hhead : c = y := (List.cons.inj hsame).1
          exact absurd (hhead ▸ List.mem_cons_self) hys
  | cons x xs ih =>
      cases ys with
      | nil =>
          have hhead : x = c := (List.cons.inj hsame).1
          exact absurd (hhead ▸ List.mem_cons_self) hxs
      | cons y ys =>
          obtain ⟨rfl, htail⟩ := List.cons.inj hsame
          obtain ⟨rfl, hbehind⟩ := ih (List.not_mem_of_not_mem_cons hxs)
            (List.not_mem_of_not_mem_cons hys) htail
          exact ⟨rfl, hbehind⟩

namespace Attachment

variable {a b : Attachment}

theorem toList_interfaceName (a : Attachment) :
    a.interfaceName.toList =
      "_vlan_tag_for_vn_".toList ++
        (a.network.toList ++ '_' :: ("compute_".toList ++ a.host.toList)) := by
  have hseparator : '_' :: "compute_".toList = "_compute_".toList := by decide
  change ("_vlan_tag_for_vn_" ++ a.network ++ "_compute_" ++ a.host).toList = _
  rw [String.toList_append, String.toList_append, String.toList_append,
    List.append_assoc, List.append_assoc, ← List.cons_append, hseparator]

theorem interfaceName_injective (ha : '_' ∉ a.network.toList)
    (hb : '_' ∉ b.network.toList) (hname : a.interfaceName = b.interfaceName) :
    a = b := by
  have hlist := congrArg String.toList hname
  rw [toList_interfaceName, toList_interfaceName] at hlist
  have hrest := List.append_cancel_left hlist
  obtain ⟨hnetwork, hbehind⟩ := split_at_separator ha hb hrest
  have hhost := List.append_cancel_left hbehind
  rw [String.toList_inj] at hnetwork hhost
  cases a
  cases b
  simp_all

end Attachment

/-- What a bound port needs: the interface of its project at its attachment. -/
structure Need where
  /-- the name of the project -/
  owner : FqName
  attachment : Attachment
deriving DecidableEq, Repr

/-- The name of the interface. -/
def Need.fqName (x : Need) : FqName := x.owner ++ [x.attachment.interfaceName]

theorem Need.fqName_injective {x y : Need} (hx : '_' ∉ x.attachment.network.toList)
    (hy : '_' ∉ y.attachment.network.toList) (hname : x.fqName = y.fqName) :
    x = y := by
  obtain ⟨howner, hlast⟩ := List.append_inj' hname rfl
  have hattachment := Attachment.interfaceName_injective hx hy
    (List.singleton_inj.mp hlast)
  cases x
  cases y
  simp_all

end VlanBinding.Integration
