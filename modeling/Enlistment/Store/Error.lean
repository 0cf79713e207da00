/-!
What can go wrong with the store of an enlistment.
-/

namespace Enlistment

def schemaVersion : Int := 1

inductive StatementFault where
  | unknownOperation (value : Int)
  | unknownPathType (value : Int)
  /-- What is in a column is not of the kind that is read from it. -/
  | undecodable (column : String)
  | notADatabase
  | cannotOpen
  | full
deriving DecidableEq

def StatementFault.message? : StatementFault → Option String
  | unknownOperation value =>
      some ("error occurred while decoding column \"operation\": unknown background operation " ++
        toString value)
  | unknownPathType value =>
      some ("error occurred while decoding column \"pathType\": unknown placeholder path type " ++
        toString value)
  | undecodable _ => none
  | notADatabase => some "error returned from database: (code: 26) file is not a database"
  | cannotOpen => some "error returned from database: (code: 14) unable to open database file"
  | full => some "error returned from database: (code: 13) database or disk is full"

inductive DatabaseError where
  | createDirectory
  | statement (fault : StatementFault)
  | shutDown
  | newerSchema (version : Int)
  | corruptRow (table reason : String)
deriving DecidableEq

def DatabaseError.message? : DatabaseError → Option String
  | createDirectory => none
  | statement fault => fault.message?.map ("sqlx error: " ++ ·)
  | shutDown => some "connection pool has been shut down"
  | newerSchema version =>
      some ("database schema version " ++ toString version ++ " is newer than supported version " ++
        toString schemaVersion)
  | corruptRow table reason => some ("corrupt row in " ++ table ++ ": " ++ reason)

def DatabaseError.messageAfter (error : DatabaseError) (lead : String) : Option String :=
  error.message?.map (lead ++ ·)

/-- How something that was begun fails: whoever began it gets an error, or the whole process ends and
nobody gets one. -/
inductive Failure (Error : Type) where
  | error (cause : Error)
  | abort (fault : StatementFault)
deriving DecidableEq

def Failure.map {Error Other : Type} (change : Error → Other) : Failure Error → Failure Other
  | .error cause => .error (change cause)
  | .abort fault => .abort fault

end Enlistment
