import Hanbova.Api.Error
import Hanbova.Library.Lowercase
import Hanbova.Library.Table
import Hanbova.Library.Uuid

/-! User accounts and the in-memory user repository: `auth/models.rs`, `auth/repository.rs`. -/
namespace Hanbova

open Library Library.Text

structure User where
  id : Uuid
  username : String
  email : String
  firstName : String
  lastName : String
  phone : Option String
  passwordHash : String
  emailVerifiedAt : Option DateTime
  createdAt : DateTime
  updatedAt : DateTime
  deriving DecidableEq

namespace InMemoryUserRepository

abbrev Users := Table Uuid User

def sameUsername (u v : User) : Bool := eqIgnoreAsciiCase u.username v.username

def sameEmail (u v : User) : Bool := eqIgnoreAsciiCase u.email v.email

/-- The unique constraints are checked and the user inserted under one write lock. -/
def createUser (users : Users) (user : User) : Except SqlxError (User × Users) :=
  if users.values.any fun u => sameUsername u user || sameEmail u user then .error .rowNotFound
  else .ok (user, users.insert user.id user)

def findById (users : Users) (id : Uuid) : Option User := users.lookup id

variable (T : CaseTable)

/-- The normal form in which the repository looks up a login. -/
def cleanLogin (login : String) : String := T.toLowercase (trimStartMatches '@' (trim login))

def matchesLogin (clean : String) (u : User) : Bool :=
  T.toLowercase u.username == clean || T.toLowercase u.email == clean

/-- The first user that matches, in the iteration order of the map. -/
def findByUsernameOrEmail (users : Users) (login : String) : Option User :=
  users.values.find? (matchesLogin T (cleanLogin T login))

variable {T}

theorem createUser_ok {users users' : Users} {u v : User}
    (h : createUser users u = .ok (v, users')) :
    v = u ∧ Table.SetAt users u.id u users' ∧
      ∀ w ∈ users.values, sameUsername w u = false ∧ sameEmail w u = false := by
  unfold createUser at h
  split_ifs at h with hc
  obtain ⟨rfl, rfl⟩ := Prod.mk.inj (Except.ok.inj h)
  refine ⟨rfl, Table.setAt_insert _ _ _, fun w hw => ?_⟩
  simp only [List.any_eq_true, Bool.or_eq_true, not_exists, not_and, not_or,
    Bool.not_eq_true] at hc
  exact hc w hw

theorem findByUsernameOrEmail_some {users : Users} {login : String} {u : User}
    (h : findByUsernameOrEmail T users login = some u) :
    u ∈ users.values ∧ matchesLogin T (cleanLogin T login) u = true :=
  ⟨List.mem_of_find?_eq_some h, List.find?_some h⟩

theorem findByUsernameOrEmail_none {users : Users} {login : String} :
    findByUsernameOrEmail T users login = none ↔
      ∀ u ∈ users.values, matchesLogin T (cleanLogin T login) u = false := by
  simp [findByUsernameOrEmail]

end InMemoryUserRepository
end Hanbova
