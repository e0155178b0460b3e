import RowSchema.Store.FileTree

/-!
# A machine whose clock moves

The tree of `FileTree.host` has a clock that stands still. Here the clock may show anything whenever
it is looked at, so that it matters how often it is.

## Main definitions

* `Machine` — a tree of files beside a clock
* `Machine.host` — what it does when it is asked
-/

namespace RowSchema

/-- A tree of files beside a clock. -/
structure Machine where
  files : FileTree
  /-- How often the clock has been looked at. -/
  looks : Nat
deriving Repr, Inhabited

/-- The requests of a machine whose clock shows `clock n` after it has been looked at `n` times. -/
def Machine.host (clock : Nat → Time.Instant) : Host (StateM Machine) where
  makeDirs path := fun m => let (t, r) := m.files.makeDirs path; (r, { m with files := t })
  write path content := fun m =>
    let (t, r) := m.files.write path content; (r, { m with files := t })
  read path := fun m => (m.files.read path, m)
  now := fun m => (clock m.looks, { m with looks := m.looks + 1 })

namespace Machine

variable (clock : Nat → Time.Instant) (m : Machine)

theorem run_bind {α β : Type} (x : StateM Machine α) (f : α → StateM Machine β) :
    (x >>= f).run m = (f (x.run m).1).run (x.run m).2 := rfl

theorem run_makeDirs (path : String) :
    ((host clock).makeDirs path).run m =
      ((m.files.makeDirs path).2, { m with files := (m.files.makeDirs path).1 }) := rfl

theorem run_write (path content : String) :
    ((host clock).write path content).run m =
      ((m.files.write path content).2, { m with files := (m.files.write path content).1 }) := rfl

theorem run_now : (host clock).now.run m = (clock m.looks, { m with looks := m.looks + 1 }) := rfl

end Machine

end RowSchema
