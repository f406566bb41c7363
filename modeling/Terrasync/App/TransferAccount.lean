import Mathlib.Data.Nat.Notation

/-! The life of one requested index, as numbers: how many tokens stand for the request in
each part of a session, and how single steps move them. A request is one token. It is
`late` while it waits to be served, or is served without a payload; `answering` while its
answer is on the way; `committing` while its commit is queued. -/

set_option autoImplicit false

namespace Terrasync.App

structure Account where
  requested : Bool
  late : Nat
  answering : Nat
  committing : Nat
  /-- Files being written or about to be. -/
  opens : Nat
  /-- Terminal outcomes on the way. -/
  reports : Nat
  /-- Payload messages on the way. -/
  payloads : Nat
  terminated : Bool
  /-- Whether the receiver holds its transfer slot for the index. -/
  held : Bool
deriving DecidableEq, Repr

namespace Account

def tokens (account : Account) : Nat := account.late + account.answering + account.committing

/-- What holds of every index in every reachable state. -/
structure Valid (account : Account) : Prop where
  single : account.tokens ≤ 1
  fresh : account.requested = false → account.tokens = 0 ∧ account.opens = 0 ∧ account.reports = 0 ∧
    account.payloads = 0 ∧ account.terminated = false
  payload : 0 < account.payloads → account.answering = 1 ∨ account.terminated = true
  late : 0 < account.late → account.opens = 0 ∧ account.reports = 0 ∧ account.terminated = false
  opensOnce : account.opens ≤ 1
  openReported : 0 < account.opens → account.reports = 0
  openTerminated : account.terminated = true → 0 < account.opens → account.tokens = 0
  held : 0 < account.opens + account.reports → account.terminated = false → account.answering = 1 →
    account.held = true

/-- What one step may do to one index. A token is lost only where `mayLose` holds. -/
inductive Moves (mayLose : Prop) (account : Account) : Account → Prop where
  | stay : Moves mayLose account account
  | ask (fresh : account.requested = false) :
      Moves mayLose account { account with requested := true, late := account.late + 1 }
  | answer {late : Nat} (payloads : Nat) (token : account.late = late + 1) :
      Moves mayLose account { account with
        late
        answering := account.answering + 1
        payloads := account.payloads + payloads }
  | lose {late : Nat} (token : account.late = late + 1) (lost : mayLose) :
      Moves mayLose account { account with late }
  | consume {payloads : Nat} (payload : account.payloads = payloads + 1) :
      Moves mayLose account { account with payloads }
  | opened {payloads : Nat} (payload : account.payloads = payloads + 1)
      (live : account.terminated = false) (free : account.held = false) :
      Moves mayLose account { account with payloads, opens := account.opens + 1, held := true }
  | drop {answering : Nat} (token : account.answering = answering + 1) (drained : account.payloads = 0)
      (excuse : account.terminated = true ∨ mayLose) : Moves mayLose account { account with answering }
  | commit {answering : Nat} (token : account.answering = answering + 1) (drained : account.payloads = 0)
      (live : account.terminated = false) (active : account.held = true) :
      Moves mayLose account { account with
        answering
        committing := account.committing + 1
        held := false }
  | reopen {answering : Nat} (token : account.answering = answering + 1) (drained : account.payloads = 0)
      (live : account.terminated = false) (free : account.held = false) :
      Moves mayLose account { account with
        answering
        committing := account.committing + 1
        opens := account.opens + 1 }
  | fail {answering : Nat} (token : account.answering = answering + 1) :
      Moves mayLose account { account with answering, terminated := true, held := false }
  | close {opens : Nat} (opening : account.opens = opens + 1) : Moves mayLose account { account with opens }
  | break_ {opens : Nat} (opening : account.opens = opens + 1) :
      Moves mayLose account { account with opens, reports := account.reports + 1 }
  | skip {committing : Nat} (token : account.committing = committing + 1)
      (excuse : 0 < account.reports ∨ account.terminated = true ∨ mayLose) :
      Moves mayLose account { account with committing }
  | finish {opens committing : Nat} (opening : account.opens = opens + 1)
      (token : account.committing = committing + 1) :
      Moves mayLose account { account with opens, committing, reports := account.reports + 1 }
  | mismatch {opens committing : Nat} (opening : account.opens = opens + 1)
      (token : account.committing = committing + 1) :
      Moves mayLose account { account with opens, committing, late := account.late + 1 }
  | mark {late : Nat} (token : account.late = late + 1) :
      Moves mayLose account { account with late, reports := account.reports + 1 }
  | report {reports : Nat} (outcome : account.reports = reports + 1) :
      Moves mayLose account { account with reports, terminated := true }
  | giveUp {late : Nat} (token : account.late = late + 1) :
      Moves mayLose account { account with late, terminated := true }

variable {mayLose : Prop} {before after : Account}

theorem Moves.single (moved : Moves mayLose before after) (valid : before.Valid) : after.tokens ≤ 1 := by
  have single := valid.single
  have fresh := valid.fresh
  simp only [tokens] at single fresh ⊢
  cases moved <;> grind -ring -linarith

theorem Moves.fresh (moved : Moves mayLose before after) (valid : before.Valid) :
    after.requested = false → after.tokens = 0 ∧ after.opens = 0 ∧ after.reports = 0 ∧
      after.payloads = 0 ∧ after.terminated = false := by
  have fresh := valid.fresh
  simp only [tokens] at fresh ⊢
  cases moved <;> grind -ring -linarith

theorem Moves.payload (moved : Moves mayLose before after) (valid : before.Valid) :
    0 < after.payloads → after.answering = 1 ∨ after.terminated = true := by
  have payload := valid.payload
  have single := valid.single
  simp only [tokens] at single
  cases moved <;> grind -ring -linarith

theorem Moves.late (moved : Moves mayLose before after) (valid : before.Valid) :
    0 < after.late → after.opens = 0 ∧ after.reports = 0 ∧ after.terminated = false := by
  obtain ⟨single, fresh, payload, late, opensOnce, openReported, openTerminated, held⟩ := valid
  simp only [tokens] at single fresh openTerminated
  cases moved <;> grind -ring -linarith

theorem Moves.opensOnce (moved : Moves mayLose before after) (valid : before.Valid) : after.opens ≤ 1 := by
  obtain ⟨single, fresh, payload, late, opensOnce, openReported, openTerminated, held⟩ := valid
  simp only [tokens] at single fresh openTerminated
  cases moved <;> grind -ring -linarith

theorem Moves.openReported (moved : Moves mayLose before after) (valid : before.Valid) :
    0 < after.opens → after.reports = 0 := by
  obtain ⟨single, fresh, payload, late, opensOnce, openReported, openTerminated, held⟩ := valid
  simp only [tokens] at single fresh openTerminated
  cases moved <;> grind -ring -linarith

theorem Moves.openTerminated (moved : Moves mayLose before after) (valid : before.Valid) :
    after.terminated = true → 0 < after.opens → after.tokens = 0 := by
  obtain ⟨single, fresh, payload, late, opensOnce, openReported, openTerminated, held⟩ := valid
  simp only [tokens] at single fresh openTerminated ⊢
  cases moved <;> grind -ring -linarith

theorem Moves.held (moved : Moves mayLose before after) (valid : before.Valid) :
    0 < after.opens + after.reports → after.terminated = false → after.answering = 1 →
      after.held = true := by
  obtain ⟨single, fresh, payload, late, opensOnce, openReported, openTerminated, held⟩ := valid
  simp only [tokens] at single fresh openTerminated
  cases moved <;> grind -ring -linarith

theorem Moves.valid (moved : Moves mayLose before after) (valid : before.Valid) : after.Valid where
  single := moved.single valid
  fresh := moved.fresh valid
  payload := moved.payload valid
  late := moved.late valid
  opensOnce := moved.opensOnce valid
  openReported := moved.openReported valid
  openTerminated := moved.openTerminated valid
  held := moved.held valid

theorem Moves.mono {other : Prop} (moved : Moves mayLose before after) (weaker : mayLose → other) :
    Moves other before after := by
  cases moved with
  | stay => exact .stay
  | ask fresh => exact .ask fresh
  | answer payloads token => exact .answer payloads token
  | lose token lost => exact .lose token (weaker lost)
  | consume payload => exact .consume payload
  | opened payload live free => exact .opened payload live free
  | drop token drained excuse => exact .drop token drained (excuse.imp_right weaker)
  | commit token drained live active => exact .commit token drained live active
  | reopen token drained live free => exact .reopen token drained live free
  | fail token => exact .fail token
  | close opening => exact .close opening
  | break_ opening => exact .break_ opening
  | skip token excuse => exact .skip token (excuse.imp_right (Or.imp_right weaker))
  | finish opening token => exact .finish opening token
  | mismatch opening token => exact .mismatch opening token
  | mark token => exact .mark token
  | report outcome => exact .report outcome
  | giveUp token => exact .giveUp token

/-- A requested index is terminated, or something that will terminate it is on the way. -/
def Kept (account : Account) : Prop :=
  account.requested = true → account.terminated = true ∨ 0 < account.reports + account.tokens

theorem Moves.kept (moved : Moves False before after) (valid : before.Valid) (kept : before.Kept) :
    after.Kept := by
  obtain ⟨single, fresh, payload, late, opensOnce, openReported, openTerminated, held⟩ := valid
  simp only [tokens, Kept] at single fresh openTerminated kept ⊢
  cases moved <;> grind -ring -linarith

end Account

end Terrasync.App
