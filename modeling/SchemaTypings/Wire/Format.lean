import SchemaTypings.Wire.Fault

/-! The kinds of record that make up a request of the schema compiler and the response
to it: for each its name and its fields. A field has a number, a name and a sort of
content. Of a response, only the fields are listed that a response here ever has. -/
namespace SchemaTypings.Wire

inductive Kind where
  | request
  | file
  | version
  | message
  | enumeration
  | service
  | field
  | fileOptions
  | sourceCodeInfo
  | extensionRange
  | oneof
  | messageOptions
  | reservedRange
  | enumValue
  | enumOptions
  | enumReservedRange
  | method
  | serviceOptions
  | fieldOptions
  | uninterpretedOption
  | location
  | extensionRangeOptions
  | oneofOptions
  | enumValueOptions
  | methodOptions
  | namePart
  | response
  | artifact
  deriving DecidableEq, Repr

inductive Content where
  /-- a number, a truth value or an enumeration code -/
  | varint
  /-- any number of these; one occurrence holds one or, delimited, several -/
  | varints
  | double
  | text
  | bytes
  | record (kind : Kind)
  deriving DecidableEq, Repr

structure FieldFormat where
  number : Nat
  name : String
  content : Content

structure Format where
  name : String
  fields : List FieldFormat

def Kind.format : Kind → Format
  | .request => ⟨"CodeGeneratorRequest", [
    ⟨1, "file_to_generate", .text⟩, ⟨2, "parameter", .text⟩,
    ⟨3, "compiler_version", .record .version⟩, ⟨15, "proto_file", .record .file⟩]⟩
  | .file => ⟨"FileDescriptorProto", [
    ⟨1, "name", .text⟩, ⟨2, "package", .text⟩, ⟨3, "dependency", .text⟩,
    ⟨4, "message_type", .record .message⟩, ⟨5, "enum_type", .record .enumeration⟩,
    ⟨6, "service", .record .service⟩, ⟨7, "extension", .record .field⟩,
    ⟨8, "options", .record .fileOptions⟩, ⟨9, "source_code_info", .record .sourceCodeInfo⟩,
    ⟨10, "public_dependency", .varints⟩, ⟨11, "weak_dependency", .varints⟩, ⟨12, "syntax", .text⟩]⟩
  | .version => ⟨"Version", [
    ⟨1, "major", .varint⟩, ⟨2, "minor", .varint⟩, ⟨3, "patch", .varint⟩, ⟨4, "suffix", .text⟩]⟩
  | .message => ⟨"DescriptorProto", [
    ⟨1, "name", .text⟩, ⟨2, "field", .record .field⟩, ⟨3, "nested_type", .record .message⟩,
    ⟨4, "enum_type", .record .enumeration⟩, ⟨5, "extension_range", .record .extensionRange⟩,
    ⟨6, "extension", .record .field⟩, ⟨7, "options", .record .messageOptions⟩,
    ⟨8, "oneof_decl", .record .oneof⟩, ⟨9, "reserved_range", .record .reservedRange⟩,
    ⟨10, "reserved_name", .text⟩]⟩
  | .enumeration => ⟨"EnumDescriptorProto", [
    ⟨1, "name", .text⟩, ⟨2, "value", .record .enumValue⟩, ⟨3, "options", .record .enumOptions⟩,
    ⟨4, "reserved_range", .record .enumReservedRange⟩, ⟨5, "reserved_name", .text⟩]⟩
  | .service => ⟨"ServiceDescriptorProto", [
    ⟨1, "name", .text⟩, ⟨2, "method", .record .method⟩, ⟨3, "options", .record .serviceOptions⟩]⟩
  | .field => ⟨"FieldDescriptorProto", [
    ⟨1, "name", .text⟩, ⟨2, "extendee", .text⟩, ⟨3, "number", .varint⟩, ⟨4, "label", .varint⟩,
    ⟨5, "r#type", .varint⟩, ⟨6, "type_name", .text⟩, ⟨7, "default_value", .text⟩,
    ⟨8, "options", .record .fieldOptions⟩, ⟨9, "oneof_index", .varint⟩, ⟨10, "json_name", .text⟩,
    ⟨17, "proto3_optional", .varint⟩]⟩
  | .fileOptions => ⟨"FileOptions", [
    ⟨1, "java_package", .text⟩, ⟨8, "java_outer_classname", .text⟩, ⟨9, "optimize_for", .varint⟩,
    ⟨10, "java_multiple_files", .varint⟩, ⟨11, "go_package", .text⟩,
    ⟨16, "cc_generic_services", .varint⟩, ⟨17, "java_generic_services", .varint⟩,
    ⟨18, "py_generic_services", .varint⟩, ⟨20, "java_generate_equals_and_hash", .varint⟩,
    ⟨23, "deprecated", .varint⟩, ⟨27, "java_string_check_utf8", .varint⟩,
    ⟨31, "cc_enable_arenas", .varint⟩, ⟨36, "objc_class_prefix", .text⟩,
    ⟨37, "csharp_namespace", .text⟩, ⟨39, "swift_prefix", .text⟩, ⟨40, "php_class_prefix", .text⟩,
    ⟨41, "php_namespace", .text⟩, ⟨42, "php_generic_services", .varint⟩,
    ⟨44, "php_metadata_namespace", .text⟩, ⟨45, "ruby_package", .text⟩,
    ⟨999, "uninterpreted_option", .record .uninterpretedOption⟩]⟩
  | .sourceCodeInfo => ⟨"SourceCodeInfo", [
    ⟨1, "location", .record .location⟩]⟩
  | .extensionRange => ⟨"ExtensionRange", [
    ⟨1, "start", .varint⟩, ⟨2, "end", .varint⟩, ⟨3, "options", .record .extensionRangeOptions⟩]⟩
  | .oneof => ⟨"OneofDescriptorProto", [
    ⟨1, "name", .text⟩, ⟨2, "options", .record .oneofOptions⟩]⟩
  | .messageOptions => ⟨"MessageOptions", [
    ⟨1, "message_set_wire_format", .varint⟩, ⟨2, "no_standard_descriptor_accessor", .varint⟩,
    ⟨3, "deprecated", .varint⟩, ⟨7, "map_entry", .varint⟩,
    ⟨999, "uninterpreted_option", .record .uninterpretedOption⟩]⟩
  | .reservedRange => ⟨"ReservedRange", [
    ⟨1, "start", .varint⟩, ⟨2, "end", .varint⟩]⟩
  | .enumValue => ⟨"EnumValueDescriptorProto", [
    ⟨1, "name", .text⟩, ⟨2, "number", .varint⟩, ⟨3, "options", .record .enumValueOptions⟩]⟩
  | .enumOptions => ⟨"EnumOptions", [
    ⟨2, "allow_alias", .varint⟩, ⟨3, "deprecated", .varint⟩,
    ⟨999, "uninterpreted_option", .record .uninterpretedOption⟩]⟩
  | .enumReservedRange => ⟨"EnumReservedRange", [
    ⟨1, "start", .varint⟩, ⟨2, "end", .varint⟩]⟩
  | .method => ⟨"MethodDescriptorProto", [
    ⟨1, "name", .text⟩, ⟨2, "input_type", .text⟩, ⟨3, "output_type", .text⟩,
    ⟨4, "options", .record .methodOptions⟩, ⟨5, "client_streaming", .varint⟩,
    ⟨6, "server_streaming", .varint⟩]⟩
  | .serviceOptions => ⟨"ServiceOptions", [
    ⟨33, "deprecated", .varint⟩, ⟨999, "uninterpreted_option", .record .uninterpretedOption⟩]⟩
  | .fieldOptions => ⟨"FieldOptions", [
    ⟨1, "ctype", .varint⟩, ⟨2, "packed", .varint⟩, ⟨3, "deprecated", .varint⟩,
    ⟨5, "lazy", .varint⟩, ⟨6, "jstype", .varint⟩, ⟨10, "weak", .varint⟩,
    ⟨999, "uninterpreted_option", .record .uninterpretedOption⟩]⟩
  | .uninterpretedOption => ⟨"UninterpretedOption", [
    ⟨2, "name", .record .namePart⟩, ⟨3, "identifier_value", .text⟩,
    ⟨4, "positive_int_value", .varint⟩, ⟨5, "negative_int_value", .varint⟩,
    ⟨6, "double_value", .double⟩, ⟨7, "string_value", .bytes⟩, ⟨8, "aggregate_value", .text⟩]⟩
  | .location => ⟨"Location", [
    ⟨1, "path", .varints⟩, ⟨2, "span", .varints⟩, ⟨3, "leading_comments", .text⟩,
    ⟨4, "trailing_comments", .text⟩, ⟨6, "leading_detached_comments", .text⟩]⟩
  | .extensionRangeOptions => ⟨"ExtensionRangeOptions", [
    ⟨999, "uninterpreted_option", .record .uninterpretedOption⟩]⟩
  | .oneofOptions => ⟨"OneofOptions", [
    ⟨999, "uninterpreted_option", .record .uninterpretedOption⟩]⟩
  | .enumValueOptions => ⟨"EnumValueOptions", [
    ⟨1, "deprecated", .varint⟩, ⟨999, "uninterpreted_option", .record .uninterpretedOption⟩]⟩
  | .methodOptions => ⟨"MethodOptions", [
    ⟨33, "deprecated", .varint⟩, ⟨34, "idempotency_level", .varint⟩,
    ⟨999, "uninterpreted_option", .record .uninterpretedOption⟩]⟩
  | .namePart => ⟨"NamePart", [
    ⟨1, "name_part", .text⟩, ⟨2, "is_extension", .varint⟩]⟩
  | .response => ⟨"CodeGeneratorResponse", [
    ⟨1, "error", .text⟩, ⟨15, "file", .record .artifact⟩]⟩
  | .artifact => ⟨"File", [
    ⟨1, "name", .text⟩, ⟨15, "content", .text⟩]⟩

def Format.field? (format : Format) (number : Nat) : Option FieldFormat :=
  format.fields.find? (·.number == number)

end SchemaTypings.Wire
