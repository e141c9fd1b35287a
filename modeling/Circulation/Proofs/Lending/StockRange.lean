/- # Circulation.Proofs.Lending.StockRange -- how many copies are on the shelf

A book never has less than no copy on the shelf and never more than it has in all, whatever fails and
whoever is given up. Behind the gate a copy is taken only from a shelf that has one, and put back only
on one that has room, so every single advance keeps the range; it does not matter whether the loan
that the copy belongs to was complete. A loan that was stored while the stock could not be written is
returned later to a shelf that was never short of its copy, and there the room decides. The catalogue
stays as it is: no book comes or goes, and none changes its title or the number of its copies in all.
-/
import Circulation.Proofs.Lending.Catalogue

namespace Circulation

namespace Book

/-- Between none and all of the copies are on the shelf. -/
def InRange (b : Book) : Prop := 0 ≤ b.availableCopies ∧ b.availableCopies ≤ b.totalCopies

instance (b : Book) : Decidable b.InRange := inferInstanceAs (Decidable (_ ∧ _))

theorem InRange.take {b : Book} (before : b.InRange) (copies : 1 ≤ b.availableCopies) :
    (b.withCopies (b.availableCopies - 1)).InRange := by
  obtain ⟨-, within⟩ := before
  constructor
  · show 0 ≤ b.availableCopies - 1
    omega
  · show b.availableCopies - 1 ≤ b.totalCopies
    omega

theorem InRange.restock {b : Book} (before : b.InRange)
    (room : b.availableCopies < b.totalCopies) :
    (b.withCopies (b.availableCopies + 1)).InRange := by
  obtain ⟨least, -⟩ := before
  constructor
  · show 0 ≤ b.availableCopies + 1
    omega
  · show b.availableCopies + 1 ≤ b.totalCopies
    omega

end Book

namespace Shelf

/-- Every book is in range. -/
def InRange (s : Shelf) : Prop := ∀ b ∈ s.toList, b.InRange

/-- The books with their entries, in the order of their numbers. -/
def listing (s : Shelf) : List (BookId × Entry) := s.toList.map fun b => (b.id, b.entry)

theorem mem_of_find? {s : Shelf} {id : BookId} {b : Book} (there : s.find? id = some b) :
    b ∈ s.toList := Register.mem_of_get? there

theorem InRange.put {s : Shelf} {b : Book} (before : s.InRange) (new : b.InRange) :
    Shelf.InRange (s.put b) := by
  intro other mem
  rcases Register.mem_put.mp mem with rfl | ⟨mem, -⟩
  · exact new
  · exact before other mem

/-- A book that is written back with other copies on the shelf is listed as before. -/
theorem listing_put {s : Shelf} {id : BookId} {found : Book} (there : s.find? id = some found)
    (copies : Int) : listing (s.put (found.withCopies copies)) = s.listing :=
  map_placeByKey s.ascending (mem_of_find? there) rfl rfl

end Shelf

namespace Lending

theorem Advance.inRange {e : Errand} {deed deed' : Deed} {st st' : Stores}
    (a : Advance e deed st deed' st') (before : st.shelf.InRange) : st'.shelf.InRange := by
  cases a with
  | take there copies => exact before.put ((before _ (Shelf.mem_of_find? there)).take copies)
  | restock there room => exact before.put ((before _ (Shelf.mem_of_find? there)).restock room)
  | _ => exact before

theorem Advance.listing {e : Errand} {deed deed' : Deed} {st st' : Stores}
    (a : Advance e deed st deed' st') : st'.shelf.listing = st.shelf.listing := by
  cases a with
  | take there => exact Shelf.listing_put there _
  | restock there => exact Shelf.listing_put there _
  | _ => rfl

/-- The books are in range and listed as they were. -/
structure Stocked (listed : List (BookId × Entry)) (s : Shelf) : Prop where
  inRange : s.InRange
  listing : s.listing = listed

theorem Stocked.step {may : Faults → Prop} {drops : Prop} {errands : List Errand} {s s' : Shift}
    {listed : List (BookId × Entry)} (h : Shift.Step may drops errands s s')
    (before : Stocked listed s.stores.shelf) : Stocked listed s'.stores.shelf := by
  cases h with
  | advance mine named advance =>
    exact ⟨advance.inRange before.inRange, advance.listing.trans before.listing⟩
  | _ => exact before

/-- At every moment, whatever fails and whoever is given up, every book has between none and all of its
copies on the shelf, and the books are listed as at the beginning. -/
theorem inRange_of_run {emit : EventSink} (sink : ∀ ev, (emit ev).Public) (errands : List Errand)
    {d : Desk} (inRange : d.shelf.InRange) {schedule : List (Pool.Move Desk)}
    (any : ∀ m ∈ schedule, Permitted (fun _ => True) True m) :
    let shelf := ((pool emit errands d).run Desk.answer schedule).world.shelf
    shelf.InRange ∧ shelf.listing = d.shelf.listing := by
  have reached := reaches_run sink (fun _ _ => trivial) errands (d := d) trivial any
  have begun : Stocked d.shelf.listing (Shift.start d.stores).stores.shelf := ⟨inRange, rfl⟩
  have now := reached.keep (P := fun s => Stocked d.shelf.listing s.stores.shelf) Stocked.step begun
  exact ⟨now.inRange, now.listing⟩

/-- The stock cannot be written when the copy is lent, and can be when its loan is returned. -/
def phantom : List (Pool.Move Desk) :=
  (List.replicate 5 0).map .step ++ failUpdates :: (List.replicate 3 0).map .step ++
    mendUpdates :: (List.replicate 12 1).map .step

theorem permitted_phantom : ∀ m ∈ phantom, Permitted (fun _ => True) True m := by
  have steps := permitted_steps (fun _ => True) True
  refine List.forall_mem_append.mpr ⟨List.forall_mem_append.mpr ⟨steps _, ?_⟩, ?_⟩
  · exact List.forall_mem_cons.mpr ⟨fun d => ⟨rfl, rfl, id⟩, steps _⟩
  · exact List.forall_mem_cons.mpr ⟨fun d => ⟨rfl, rfl, id⟩, steps _⟩

/-- The loan was stored and its copy never taken. It is returned, and the one copy is on the shelf. -/
theorem inRange_of_run_oneCopy :
    let d := ((pool recordingSink [borrowCopy, returnCopy] oneCopy).run Desk.answer phantom).world
    (d.ledger.find? ⟨1⟩).map (·.status) = some .returned ∧
      d.shelf.toList.map (·.availableCopies) = [1] ∧ oneCopy.shelf.InRange ∧ d.shelf.InRange ∧
      d.shelf.listing = [(⟨1⟩, ⟨"Emma", 1⟩)] := by
  have begun : oneCopy.shelf.InRange := by
    show ∀ b ∈ [_], _
    decide
  obtain ⟨inRange, listed⟩ := inRange_of_run recordingSink_public [borrowCopy, returnCopy] begun
    permitted_phantom
  exact ⟨by decide +kernel, by decide +kernel, begun, inRange, listed.trans rfl⟩

end Lending

end Circulation
