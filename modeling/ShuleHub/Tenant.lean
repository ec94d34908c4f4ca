import ShuleHub.Billing.Invoices
import ShuleHub.Payments.Intents

/-! The tables of one tenant that money moves through, as one state. -/

namespace ShuleHub

open Transaction Finance Billing Payments

structure TenantDb where
  finance : FinanceDb
  billing : BillingDb
  payments : PaymentsDb
deriving DecidableEq

def onFinance {A : Type} (action : Transaction FinanceDb Exception A) : Transaction TenantDb Exception A :=
  zoom (·.finance) (fun db finance => { db with finance }) action

def onBilling {A : Type} (action : Transaction BillingDb Exception A) : Transaction TenantDb Exception A :=
  zoom (·.billing) (fun db billing => { db with billing }) action

def onPayments {A : Type} (action : Transaction PaymentsDb Exception A) : Transaction TenantDb Exception A :=
  zoom (·.payments) (fun db payments => { db with payments }) action

section Zoomed

variable {A : Type} {result : A} {db after : TenantDb}

@[simp] theorem onFinance_ok {action : Transaction FinanceDb Exception A} :
    (onFinance action).run db = .ok (result, after) ↔
      ∃ finance, action.run db.finance = .ok (result, finance) ∧ after = { db with finance } :=
  run_zoom_ok

@[simp] theorem onBilling_ok {action : Transaction BillingDb Exception A} :
    (onBilling action).run db = .ok (result, after) ↔
      ∃ billing, action.run db.billing = .ok (result, billing) ∧ after = { db with billing } :=
  run_zoom_ok

@[simp] theorem onPayments_ok {action : Transaction PaymentsDb Exception A} :
    (onPayments action).run db = .ok (result, after) ↔
      ∃ payments, action.run db.payments = .ok (result, payments) ∧ after = { db with payments } :=
  run_zoom_ok

end Zoomed

def findByCode (db : TenantDb) (accountCode : String) : Option AccountEntity :=
  db.finance.accounts.find? fun account => account.code = accountCode

end ShuleHub
