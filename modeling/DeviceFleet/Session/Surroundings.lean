/-
# Surroundings

The collaborators of a service under trial: the authority, the directory of users, the source of
identifiers, and a clock that stands still.
-/
import DeviceFleet.Session.Authority
import DeviceFleet.Session.Directory

namespace DeviceFleet

/-- The collaborators of a service under trial. -/
structure Surroundings where
  /-- Tells who a caller is and what they may do. -/
  authority : Authority
  /-- Knows the addresses of users. -/
  directory : Directory
  /-- Hands out identifiers. -/
  ids : NumberedIds

namespace Surroundings

/-- The time of the clock, which no record that comes from outside can carry: it lies far beyond
the last year that a time stamp can name. -/
def clockTime : Instant := .ofSeconds 1000000000000000

/-- The token of the one who administers the platform. -/
def adminToken : String := "admin-token"

/-- The one who administers the platform. -/
def admin : Identity := ⟨"admin", "admin@example.com"⟩

/-- Surroundings that know the one who administers the platform and nobody else. -/
def initial (ids : NumberedIds) : Surroundings where
  authority := Authority.empty.addAdmin adminToken admin
  directory := Directory.empty.add ⟨admin.id, admin.email⟩
  ids := ids

/-- Adds a user to the authority, and to the directory if `listed` says so. -/
def addUser (s : Surroundings) (token : String) (identity : Identity) (listed : Bool) :
    Surroundings :=
  { s with
    authority := s.authority.addUser token identity
    directory := if listed then s.directory.add ⟨identity.id, identity.email⟩ else s.directory }

/-- Adds a user who administers the platform. -/
def addAdmin (s : Surroundings) (token : String) (identity : Identity) (listed : Bool) :
    Surroundings :=
  let added := s.addUser token identity listed
  { added with authority := added.authority.addAdmin token identity }

/-- What the collaborators reply. -/
def collaborators (s : Surroundings) : Collaborators where
  authorize _ store request := ⟨s.authority.delay, s.authority.decide store request⟩
  identify _ _ token := ⟨s.authority.delay, s.authority.identity token⟩
  findUsers _ _ ids := ⟨s.directory.delay, s.directory.find ids none⟩
  newId := s.ids.next
  clock _ := clockTime

end Surroundings

end DeviceFleet
