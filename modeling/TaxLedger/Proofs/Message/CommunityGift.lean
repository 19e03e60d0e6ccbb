import TaxLedger.Proofs.Address.ReadablePart
import TaxLedger.Proofs.Message.Registry

/-!
Gifts to the community pool. What an account gives reaches the pool of the chain that its address belongs to
(`gift_stays_on_chain`).
-/

namespace TaxLedger.Message

namespace CommunityGift

variable {message : Json} {log : Option LogEntry} {depositor : String} {amount : List CoinText}

theorem poolFor_eq {readable pool : String} (own : Address.readablePart? depositor = some readable)
    (made : Address.ofModule readable "distribution" = .ok pool) : poolFor depositor = pool := by
  unfold poolFor
  rw [own]
  dsimp only
  rw [made]

/-- What is decoded of a gift are the coins of its body, each going to the pool. -/
theorem gift_decoded {contracts : Contract.Registry} {decoded : Decoded}
    (told : bodyOfJson? message = some (depositor, amount))
    (success : (Registry.standard contracts).decode fundCommunityPoolType message log = .ok decoded) :
    ∃ coins, coinsOfTexts amount = .ok coins ∧
      decoded.movements = coins.map (Movement.transfer depositor (poolFor depositor)) := by
  have heard : (Registry.standard contracts).isIgnored fundCommunityPoolType = false := rfl
  have only : (Registry.standard contracts).decodersFor fundCommunityPoolType = [decoder] := rfl
  rw [Registry.decode_eq_read heard only] at success
  obtain ⟨reading, shown, rfl⟩ := map_ok success
  obtain ⟨gift, read, rfl⟩ := map_ok shown
  obtain ⟨entry, _, read⟩ := bind_ok read
  obtain ⟨own, body, read⟩ := bind_ok read
  rw [body_eq_ok, told] at body
  cases body
  obtain ⟨coins, known, read⟩ := bind_ok read
  cases read
  exact ⟨coins, known, rfl⟩

end CommunityGift

/-- An address has the readable part that it was made with, in lower case. There is an account of the
community pool with that readable part, and a message with the address as its depositor that can be decoded
moves each of its coins, in order, from the depositor to that account. -/
theorem gift_stays_on_chain (readable : String) (bytes : List UInt8) (depositor : String)
    (made : Address.ofBytes readable bytes = .ok depositor) :
    Address.readablePart? depositor = some (Text.lower readable) ∧
      ∃ pool, Address.ofModule readable "distribution" = .ok pool ∧
        ∀ (contracts : Contract.Registry) (message : Json) (log : Option LogEntry)
          (amount : List CoinText) (decoded : Decoded),
          CommunityGift.bodyOfJson? message = some (depositor, amount) →
          (Registry.standard contracts).decode fundCommunityPoolType message log = .ok decoded →
          ∃ coins, coinsOfTexts amount = .ok coins ∧
            decoded.movements = coins.map (Movement.transfer depositor pool) := by
  obtain ⟨valid, -⟩ := Address.ofBytes_eq_ok_iff.mp made
  have own := Address.readablePart?_ofBytes made
  obtain ⟨pool, account⟩ := Address.exists_ofModule valid "distribution"
  refine ⟨own, pool, account, ?_⟩
  intro contracts message log amount decoded told success
  have lower : Address.ofModule (Text.lower readable) "distribution" = .ok pool := by
    rw [← account]
    exact Address.ofBytes_lower valid _
  rw [← CommunityGift.poolFor_eq own lower]
  exact CommunityGift.gift_decoded told success

/-- An account of a chain whose prefix is in capitals and ends in the separator gives two coins. -/
theorem gift_stays_on_chain_of_capitals :
    let depositor := "test11qurswpc8qurswpc8qurswpc8qurswpc8c5k7hr"
    let pool := "test11jv65s3grqf6v6jl3dp4t6c9t9rk99cd8vc4c7a"
    let amount : List CoinText := [⟨"uosmo", "9"⟩, ⟨"uion", "4"⟩]
    let message : Json := .obj [("depositor", .str depositor), ("amount", .arr
      [.obj [("denom", .str "uosmo"), ("amount", .str "9")],
        .obj [("denom", .str "uion"), ("amount", .str "4")]])]
    let log : LogEntry := ⟨0, [⟨"message", [⟨"action", "fund_community_pool"⟩]⟩]⟩
    let decoded : Decoded := ⟨fundCommunityPoolType,
      "MsgFundCommunityPool: test11qurswpc8qurswpc8qurswpc8qurswpc8c5k7hr gave 9uosmo, 4uion",
      [.transfer depositor pool ⟨9, "uosmo"⟩, .transfer depositor pool ⟨4, "uion"⟩]⟩
    Address.ofBytes "TEST1" (List.replicate 20 7) = .ok depositor ∧
      CommunityGift.bodyOfJson? message = some (depositor, amount) ∧
      (Registry.standard {}).decode fundCommunityPoolType message (some log) = .ok decoded ∧
      Address.readablePart? depositor = some "test1" ∧
      Address.ofModule "TEST1" "distribution" = .ok pool ∧
      ∃ coins, coinsOfTexts amount = .ok coins ∧
        decoded.movements = coins.map (Movement.transfer depositor pool) := by
  intro depositor pool amount message log decoded
  have made : Address.ofBytes "TEST1" (List.replicate 20 7) = .ok depositor := by decide +kernel
  have account : Address.ofModule "TEST1" "distribution" = .ok pool := by decide +kernel
  have told : CommunityGift.bodyOfJson? message = some (depositor, amount) := by decide +kernel
  have success : (Registry.standard {}).decode fundCommunityPoolType message (some log) =
      .ok decoded := by
    decide +kernel
  obtain ⟨own, pool', account', moves⟩ :=
    gift_stays_on_chain "TEST1" (List.replicate 20 7) depositor made
  have small : Text.lower "TEST1" = "test1" := by decide +kernel
  rw [account] at account'
  cases account'
  exact ⟨made, told, success, small ▸ own, account,
    moves {} message (some log) amount decoded told success⟩

end TaxLedger.Message
