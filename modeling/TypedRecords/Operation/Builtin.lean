import TypedRecords.Answer.Models
import TypedRecords.Operation.Basic
import TypedRecords.Tables

/-!
# The operations of every service

The operations on tables, on records and about the service itself. Each passes its parameters
on to `Tables` or `Records` and puts the result into its answer.
-/

namespace TypedRecords.Operation

/-- The value for the message of an answer. -/
def success (message : String) : String × Json :=
  ("message", .text message)

/-- The value for the message that something was done to a table. -/
def tableSuccess (className : Json) (done : String) : String × Json :=
  success ("Table '" ++ className.display ++ "' " ++ done ++ " successfully")

/-- The wire form of a record. -/
def encoded (record : Record) : Action Json := do
  let entries ← Action.ofHost record.encode
  return .object entries

/-- Create a table with the fields of the sample values, seeded as the call or else the settings
say. -/
def createTable : Operation :=
  declare "createTable" ["className"] [] (some "Failed to create table")
    fun settings parameters => do
      let className := Json.entry parameters "className"
      let created ← Tables.create settings.seedByDefault className
        (Json.entry parameters "schema") (Json.entry parameters "seedRecord")
      Action.ofHost (Answer.tableCreated.build [
        tableSuccess className "created",
        ("class_name", className),
        ("seed_object_id", (created.seedObjectId.map Json.text).getD .null)])

/-- The summary of a class and its schema in the list of tables. -/
def summarize (table : Json × Schema) : Except HostError Json :=
  Answer.tableSummary.build [
    ("class_name", table.1),
    ("fields", .array ((Entries.keys table.2).map .text))]

/-- List every class with the names of its fields. -/
def listTables : Operation :=
  declare "listTables" [] [] (some "Failed to list tables")
    fun _ _ => do
      let tables ← Tables.list
      let summaries ← Action.ofHost (tables.mapM summarize)
      Action.ofHost (Answer.tableList.build [
        ("tables", .array summaries),
        ("count", .int summaries.length)])

/-- Tell the descriptors of the fields of a class that exists. -/
def getTableSchema : Operation :=
  declare "getTableSchema" ["className"] [] (some "Failed to get schema")
    fun _ parameters => do
      let className := Json.entry parameters "className"
      let schema ← Tables.schema className
      Action.ofHost (Answer.tableSchema.build [
        ("class_name", className),
        ("fields", .object (schema.map fun field => (field.1, field.2.toJson)))])

/-- Purge a class with its records and its schema. -/
def deleteTable : Operation :=
  declare "deleteTable" ["className"] [] (some "Failed to delete table")
    fun _ parameters => do
      let className := Json.entry parameters "className"
      Tables.delete className
      Action.ofHost (Answer.tableDeleted.build [tableSuccess className "deleted"])

/-- The answer about a record that was written. -/
def recordAnswer (message : String) (record : Record) : Action Json := do
  let data ← encoded record
  Action.ofHost (Answer.recordWritten.build [
    success message,
    ("object_id", .text record.objectId),
    ("data", data)])

/-- Create a record and answer it; the record stays even when it cannot be encoded for the
answer. -/
def createRecord : Operation :=
  declare "createRecord" ["className", "data"] [] (some "Failed to create record")
    fun _ parameters => do
      let record ← Records.create (Json.entry parameters "className")
        (Json.entry parameters "data")
      recordAnswer "Record created successfully" record

/-- The smaller of a page size and the largest one allowed. A page size that is no integer is
left alone, and nothing is larger than the undefined double. -/
def capLimit (limit maxLimit : Json) : Except HostError Json :=
  match maxLimit, limit with
  | .null, _ => .ok limit
  | _, .int _ | _, .bool _ =>
      match maxLimit.key, limit.key with
      | .ok (.number largest), .ok (.number wanted) =>
          .ok (if largest.lt wanted then maxLimit else limit)
      | .ok .undefined, _ => .ok limit
      | _, _ => .error (.notOrdered limit.typeName maxLimit.typeName)
  | _, _ => .ok limit

/-- The filter that a parameter stands for: one that is not set stands for the empty one. -/
def filterOf (parameters : List (String × Json)) : Json :=
  let filters := Json.entry parameters "filters"
  if filters.isTruthy then filters else .object []

/-- Answer a page of the records of a class. The default of the page size comes from the settings,
and so does the bound that it is cut down to. -/
def readTable : Operation :=
  declare "readTable" ["className"] [] (some "Failed to read records")
    fun settings parameters => do
      let className := Json.entry parameters "className"
      let wanted := (Json.entry parameters "limit").orElse settings.defaultLimit
      let limit ← Action.ofHost (capLimit wanted settings.maxLimit)
      let records ← Records.read settings.strictFilters className (filterOf parameters) limit
        ((Json.entry parameters "skip").orElse (.int 0))
      let data ← records.mapM encoded
      Action.ofHost (Answer.recordPage.build [
        ("class_name", className),
        ("count", .int records.length),
        ("data", .array data)])

/-- Set the given fields of a record and answer it; the update stays even when the record cannot be
encoded for the answer. -/
def updateRecord : Operation :=
  declare "updateRecord" ["className", "objectId", "data"] [] (some "Failed to update record")
    fun _ parameters => do
      let record ← Records.update (Json.entry parameters "className")
        (Json.entry parameters "objectId") (Json.entry parameters "data")
      recordAnswer "Record updated successfully" record

/-- Delete a record that exists and answer its id. -/
def deleteRecord : Operation :=
  declare "deleteRecord" ["className", "objectId"] [] (some "Failed to delete record")
    fun _ parameters => do
      let objectId := Json.entry parameters "objectId"
      Records.delete (Json.entry parameters "className") objectId
      Action.ofHost (Answer.recordDeleted.build [
        success "Record deleted successfully",
        ("object_id", objectId)])

/-- Create all records of a batch or none, and answer their ids. -/
def batchCreateRecords : Operation :=
  declare "batchCreateRecords" ["className"] ["records"]
    (some "Failed to batch create records")
    fun _ parameters => do
      let records ← Records.createBatch (Json.entry parameters "className")
        (Json.entry parameters "records")
      Action.ofHost (Answer.batchCreated.build [
        success (toString records.length ++ " records created successfully"),
        ("count", .int records.length),
        ("object_ids", .array (records.map fun record => .text record.objectId))])

/-- Answer the number of records of a class that pass a filter. -/
def countRecords : Operation :=
  declare "countRecords" ["className"] [] (some "Failed to count records")
    fun settings parameters => do
      let className := Json.entry parameters "className"
      let count ← Records.count settings.strictFilters className (filterOf parameters)
      Action.ofHost (Answer.recordCount.build [
        ("class_name", className),
        ("count", .int count)])

/-- Tell the version and the features of the settings with the time of the backend. -/
def getServerInfo : Operation :=
  declare "getServerInfo" [] [] none
    fun settings _ => do
      let timestamp ← Backend.timestamp
      Action.ofHost (Answer.buildServiceInfo settings.version timestamp settings.features)

/-- The answer about the health of the service, with a status of any kind. -/
def healthAnswer (status : Json) : Action Json := do
  let timestamp ← Backend.timestamp
  Action.ofHost (Answer.health.build [("status", status), ("timestamp", timestamp)])

/-- Tell that the service is healthy, with the time of the backend. -/
def healthCheck : Operation :=
  declare "healthCheck" [] [] none
    fun _ _ => healthAnswer (.text "healthy")

/-- The operations of every service. -/
def builtin : List Operation :=
  [batchCreateRecords, countRecords, createRecord, createTable, deleteRecord, deleteTable,
    getServerInfo, getTableSchema, healthCheck, listTables, readTable, updateRecord]

end TypedRecords.Operation
