import TaxLedger.Proofs.Config.Accepted
import TaxLedger.Proofs.Result

/-!
Every configuration that is loaded is accepted, and its times in whole seconds are held in 64 bits
(`loaded`): the readers of a setting give no other natural numbers, whatever form the setting has.
-/

namespace TaxLedger.Config

/-- The times in whole seconds are held in 64 bits. -/
structure Sized (c : Config) : Prop where
  timeout : c.node.timeout ≤ nat64Max
  shutdownGrace : c.base.shutdownGrace ≤ nat64Max

theorem nat64?_le {s : String} {n : Nat} (h : Text.nat64? s = some n) : n ≤ nat64Max := by
  simp only [Text.nat64?] at h
  split at h
  · cases h
  · obtain ⟨k, read, rfl⟩ := Option.map_eq_some_iff.mp h
    have inRange := (Option.filter_eq_some_iff.mp read).2
    simp only [Bool.and_eq_true, decide_eq_true_eq] at inRange
    omega

theorem roundInto_le {lo hi : Int} (nonneg : 0 ≤ hi) (order : lo ≤ hi) (x : Binary64) :
    Setting.roundInto lo hi x ≤ hi := by
  simp only [Setting.roundInto]
  split
  · split <;> omega
  · split <;> omega
  · omega

theorem asNat?_le {v : Setting} {n : Nat} (h : v.asNat? = some n) : n ≤ nat64Max := by
  obtain ⟨k, read, rfl⟩ := Option.map_eq_some_iff.mp h
  have truth (b : Bool) : (if b then 1 else 0 : Int) ≤ nat64Max := by cases b <;> decide
  have bound : k ≤ nat64Max := by
    cases v with
    | bool b =>
      cases read
      exact truth b
    | int n =>
      simp only [Setting.asIntWith?, Bool.and_eq_true, decide_eq_true_eq] at read
      split at read
      · cases read
        omega
      · cases read
    | float x =>
      cases read
      exact roundInto_le (by omega) (by omega) x
    | text s =>
      simp only [Setting.asIntWith?] at read
      split at read
      · cases read
        exact truth _
      · obtain ⟨n, number, rfl⟩ := Option.map_eq_some_iff.mp read
        exact Int.ofNat_le.mpr (nat64?_le number)
    | unset => cases read
    | list items => cases read
    | table entries => cases read
  omega

theorem required_some {α : Type} {read : Setting → Option α} {v : Option Setting} {a : α}
    (present : required read v = some a) : ∃ value, read value = some a := by
  cases v with
  | none => cases present
  | some value => exact ⟨value, present⟩

theorem withDefault_some {α : Type} {fallback a : α} {read : Setting → Option α} {v : Option Setting}
    (taken : withDefault fallback read v = some a) : a = fallback ∨ ∃ value, read value = some a := by
  cases v with
  | none => exact .inl (Option.some.inj taken).symm
  | some value => exact .inr ⟨value, taken⟩

theorem withDefault_le {fallback n : Nat} {v : Option Setting} (least : fallback ≤ nat64Max)
    (taken : withDefault fallback Setting.asNat? v = some n) : n ≤ nat64Max := by
  rcases withDefault_some taken with rfl | ⟨value, read⟩
  · exact least
  · exact asNat?_le read

theorem timeout_le {v : Setting} {node : NodeSettings} (read : NodeSettings.ofSetting? v = some node) :
    node.timeout ≤ nat64Max := by
  simp only [NodeSettings.ofSetting?] at read
  split at read
  · obtain ⟨rpc, _, read⟩ := Option.bind_eq_some_iff.mp read
    obtain ⟨api, _, read⟩ := Option.bind_eq_some_iff.mp read
    obtain ⟨timeout, time, read⟩ := Option.bind_eq_some_iff.mp read
    cases read
    exact withDefault_le (by decide) time
  · cases read

theorem shutdownGrace_le {v : Setting} {base : BaseSettings}
    (read : BaseSettings.ofSetting? v = some base) : base.shutdownGrace ≤ nat64Max := by
  simp only [BaseSettings.ofSetting?] at read
  split at read
  · -- The period of grace is the last of the fields.
    iterate 23 obtain ⟨_, _, read⟩ := Option.bind_eq_some_iff.mp read
    obtain ⟨grace, time, read⟩ := Option.bind_eq_some_iff.mp read
    cases read
    exact withDefault_le (by decide) time
  · cases read

theorem sized_of_read {v : Setting} {c : Config} (read : ofSetting? v = some c) : c.Sized := by
  simp only [ofSetting?] at read
  split at read
  · obtain ⟨chain, _, read⟩ := Option.bind_eq_some_iff.mp read
    obtain ⟨node, nodeRead, read⟩ := Option.bind_eq_some_iff.mp read
    obtain ⟨base, baseRead, read⟩ := Option.bind_eq_some_iff.mp read
    obtain ⟨assetList, _, read⟩ := Option.bind_eq_some_iff.mp read
    obtain ⟨codeIds, _, read⟩ := Option.bind_eq_some_iff.mp read
    cases read
    constructor
    · obtain ⟨value, read⟩ := required_some nodeRead
      exact timeout_le read
    · rcases withDefault_some baseRead with rfl | ⟨value, read⟩
      · exact show 30 ≤ nat64Max by decide
      · exact shutdownGrace_le read
  · cases read

theorem load_ok {path : String} {text : Option String} {env : List (String × String)} {c : Config}
    (ok : load path text env = .ok c) : (∃ v, ofSetting? v = some c) ∧ c.validate = .ok () := by
  obtain ⟨changes, _, ok⟩ := bind_ok ok
  dsimp only at ok
  split at ok
  · obtain ⟨_, unread, _⟩ := bind_ok ok
    cases unread
  split at ok
  · obtain ⟨entries, _, ok⟩ := bind_ok ok
    split at ok
    · cases ok
    rename_i config read
    split at ok
    · rename_i valid
      cases ok
      exact ⟨⟨_, read⟩, valid⟩
    · cases ok
  · obtain ⟨_, unread, _⟩ := bind_ok ok
    cases unread

theorem loaded {path : String} {text : Option String} {env : List (String × String)} {c : Config}
    (ok : load path text env = .ok c) : c.Accepted ∧ c.Sized := by
  obtain ⟨⟨_, read⟩, valid⟩ := load_ok ok
  exact ⟨(validate_ok_iff c).mp valid, sized_of_read read⟩

end TaxLedger.Config
