import TypedFetch.Proto.Bundled
import TypedFetch.Proto.Parser

/-!
# Well-known schemas

The schemas that come with the compiler: messages for common values, and the schema of schemas,
which declares the options that declarations may have.
-/

namespace TypedFetch.Proto.WellKnown

/-- A value of any message type. -/
def anySource : String :=
  sourceText [
    "syntax = \"proto3\";",
    "package google.protobuf;",
    "message Any \x7b",
    "  string type_url = 1;",
    "  bytes value = 2;",
    "\x7d"]

/-- Where a declaration was written. -/
def sourceContextSource : String :=
  sourceText [
    "syntax = \"proto3\";",
    "package google.protobuf;",
    "message SourceContext \x7b",
    "  string file_name = 1;",
    "\x7d"]

/-- Types as values. -/
def typeSource : String :=
  sourceText [
    "syntax = \"proto3\";",
    "package google.protobuf;",
    "import \"google/protobuf/any.proto\";",
    "import \"google/protobuf/source_context.proto\";",
    "message Type \x7b",
    "  string name = 1;",
    "  repeated Field fields = 2;",
    "  repeated string oneofs = 3;",
    "  repeated Option options = 4;",
    "  SourceContext source_context = 5;",
    "  Syntax syntax = 6;",
    "  string edition = 7;",
    "\x7d",
    "message Field \x7b",
    "  enum Kind \x7b",
    "    TYPE_UNKNOWN = 0;",
    "    TYPE_DOUBLE = 1;",
    "    TYPE_FLOAT = 2;",
    "    TYPE_INT64 = 3;",
    "    TYPE_UINT64 = 4;",
    "    TYPE_INT32 = 5;",
    "    TYPE_FIXED64 = 6;",
    "    TYPE_FIXED32 = 7;",
    "    TYPE_BOOL = 8;",
    "    TYPE_STRING = 9;",
    "    TYPE_GROUP = 10;",
    "    TYPE_MESSAGE = 11;",
    "    TYPE_BYTES = 12;",
    "    TYPE_UINT32 = 13;",
    "    TYPE_ENUM = 14;",
    "    TYPE_SFIXED32 = 15;",
    "    TYPE_SFIXED64 = 16;",
    "    TYPE_SINT32 = 17;",
    "    TYPE_SINT64 = 18;",
    "  \x7d",
    "  enum Cardinality \x7b",
    "    CARDINALITY_UNKNOWN = 0;",
    "    CARDINALITY_OPTIONAL = 1;",
    "    CARDINALITY_REQUIRED = 2;",
    "    CARDINALITY_REPEATED = 3;",
    "  \x7d",
    "  Kind kind = 1;",
    "  Cardinality cardinality = 2;",
    "  int32 number = 3;",
    "  string name = 4;",
    "  string type_url = 6;",
    "  int32 oneof_index = 7;",
    "  bool packed = 8;",
    "  repeated Option options = 9;",
    "  string json_name = 10;",
    "  string default_value = 11;",
    "\x7d",
    "message Enum \x7b",
    "  string name = 1;",
    "  repeated EnumValue enumvalue = 2;",
    "  repeated Option options = 3;",
    "  SourceContext source_context = 4;",
    "  Syntax syntax = 5;",
    "  string edition = 6;",
    "\x7d",
    "message EnumValue \x7b",
    "  string name = 1;",
    "  int32 number = 2;",
    "  repeated Option options = 3;",
    "\x7d",
    "message Option \x7b",
    "  string name = 1;",
    "  Any value = 2;",
    "\x7d",
    "enum Syntax \x7b",
    "  SYNTAX_PROTO2 = 0;",
    "  SYNTAX_PROTO3 = 1;",
    "  SYNTAX_EDITIONS = 2;",
    "\x7d"]

/-- Services as values. -/
def apiSource : String :=
  sourceText [
    "syntax = \"proto3\";",
    "package google.protobuf;",
    "import \"google/protobuf/source_context.proto\";",
    "import \"google/protobuf/type.proto\";",
    "message Api \x7b",
    "  string name = 1;",
    "  repeated Method methods = 2;",
    "  repeated Option options = 3;",
    "  string version = 4;",
    "  SourceContext source_context = 5;",
    "  repeated Mixin mixins = 6;",
    "  Syntax syntax = 7;",
    "\x7d",
    "message Method \x7b",
    "  string name = 1;",
    "  string request_type_url = 2;",
    "  bool request_streaming = 3;",
    "  string response_type_url = 4;",
    "  bool response_streaming = 5;",
    "  repeated Option options = 6;",
    "  Syntax syntax = 7;",
    "\x7d",
    "message Mixin \x7b",
    "  string name = 1;",
    "  string root = 2;",
    "\x7d"]

/-- Spans of time. -/
def durationSource : String :=
  sourceText [
    "syntax = \"proto3\";",
    "package google.protobuf;",
    "message Duration \x7b",
    "  int64 seconds = 1;",
    "  int32 nanos = 2;",
    "\x7d"]

/-- The message without content. -/
def emptySource : String :=
  sourceText [
    "syntax = \"proto3\";",
    "package google.protobuf;",
    "message Empty \x7b\x7d"]

/-- Sets of field paths. -/
def fieldMaskSource : String :=
  sourceText [
    "syntax = \"proto3\";",
    "package google.protobuf;",
    "message FieldMask \x7b",
    "  repeated string paths = 1;",
    "\x7d"]

/-- Values without a fixed type. -/
def structSource : String :=
  sourceText [
    "syntax = \"proto3\";",
    "package google.protobuf;",
    "message Struct \x7b",
    "  map<string, Value> fields = 1;",
    "\x7d",
    "message Value \x7b",
    "  oneof kind \x7b",
    "    NullValue null_value = 1;",
    "    double number_value = 2;",
    "    string string_value = 3;",
    "    bool bool_value = 4;",
    "    Struct struct_value = 5;",
    "    ListValue list_value = 6;",
    "  \x7d",
    "\x7d",
    "enum NullValue \x7b",
    "  NULL_VALUE = 0;",
    "\x7d",
    "message ListValue \x7b",
    "  repeated Value values = 1;",
    "\x7d"]

/-- Points in time. -/
def timestampSource : String :=
  sourceText [
    "syntax = \"proto3\";",
    "package google.protobuf;",
    "message Timestamp \x7b",
    "  int64 seconds = 1;",
    "  int32 nanos = 2;",
    "\x7d"]

/-- Built-in types that may be absent. -/
def wrappersSource : String :=
  sourceText [
    "syntax = \"proto3\";",
    "package google.protobuf;",
    "message DoubleValue \x7b double value = 1; \x7d",
    "message FloatValue \x7b float value = 1; \x7d",
    "message Int64Value \x7b int64 value = 1; \x7d",
    "message UInt64Value \x7b uint64 value = 1; \x7d",
    "message Int32Value \x7b int32 value = 1; \x7d",
    "message UInt32Value \x7b uint32 value = 1; \x7d",
    "message BoolValue \x7b bool value = 1; \x7d",
    "message StringValue \x7b string value = 1; \x7d",
    "message BytesValue \x7b bytes value = 1; \x7d"]

/-- Schemas as values; the options of every kind of declaration are among them. -/
def descriptorSource : String :=
  sourceText [
    "syntax = \"proto2\";",
    "package google.protobuf;",
    "message FileDescriptorSet \x7b",
    "  repeated FileDescriptorProto file = 1;",
    "  extensions 536000000;",
    "\x7d",
    "enum Edition \x7b",
    "  EDITION_UNKNOWN = 0;",
    "  EDITION_LEGACY = 900;",
    "  EDITION_PROTO2 = 998;",
    "  EDITION_PROTO3 = 999;",
    "  EDITION_2023 = 1000;",
    "  EDITION_2024 = 1001;",
    "  EDITION_1_TEST_ONLY = 1;",
    "  EDITION_2_TEST_ONLY = 2;",
    "  EDITION_99997_TEST_ONLY = 99997;",
    "  EDITION_99998_TEST_ONLY = 99998;",
    "  EDITION_99999_TEST_ONLY = 99999;",
    "  EDITION_MAX = 0x7FFFFFFF;",
    "\x7d",
    "message FileDescriptorProto \x7b",
    "  optional string name = 1;",
    "  optional string package = 2;",
    "  repeated string dependency = 3;",
    "  repeated int32 public_dependency = 10;",
    "  repeated int32 weak_dependency = 11;",
    "  repeated DescriptorProto message_type = 4;",
    "  repeated EnumDescriptorProto enum_type = 5;",
    "  repeated ServiceDescriptorProto service = 6;",
    "  repeated FieldDescriptorProto extension = 7;",
    "  optional FileOptions options = 8;",
    "  optional SourceCodeInfo source_code_info = 9;",
    "  optional string syntax = 12;",
    "  optional Edition edition = 14;",
    "  repeated string option_dependency = 15;",
    "\x7d",
    "message DescriptorProto \x7b",
    "  optional string name = 1;",
    "  repeated FieldDescriptorProto field = 2;",
    "  repeated FieldDescriptorProto extension = 6;",
    "  repeated DescriptorProto nested_type = 3;",
    "  repeated EnumDescriptorProto enum_type = 4;",
    "  message ExtensionRange \x7b",
    "    optional int32 start = 1;",
    "    optional int32 end = 2;",
    "    optional ExtensionRangeOptions options = 3;",
    "  \x7d",
    "  repeated ExtensionRange extension_range = 5;",
    "  repeated OneofDescriptorProto oneof_decl = 8;",
    "  optional MessageOptions options = 7;",
    "  message ReservedRange \x7b",
    "    optional int32 start = 1;",
    "    optional int32 end = 2;",
    "  \x7d",
    "  repeated ReservedRange reserved_range = 9;",
    "  repeated string reserved_name = 10;",
    "  optional SymbolVisibility visibility = 11;",
    "\x7d",
    "message ExtensionRangeOptions \x7b",
    "  repeated UninterpretedOption uninterpreted_option = 999;",
    "  message Declaration \x7b",
    "    optional int32 number = 1;",
    "    optional string full_name = 2;",
    "    optional string type = 3;",
    "    optional bool reserved = 5;",
    "    optional bool repeated = 6;",
    "    reserved 4;",
    "  \x7d",
    "  repeated Declaration declaration = 2;",
    "  optional FeatureSet features = 50;",
    "  enum VerificationState \x7b",
    "    DECLARATION = 0;",
    "    UNVERIFIED = 1;",
    "  \x7d",
    "  optional VerificationState verification = 3 [default = UNVERIFIED];",
    "  extensions 1000 to max;",
    "\x7d",
    "message FieldDescriptorProto \x7b",
    "  enum Type \x7b",
    "    TYPE_DOUBLE = 1;",
    "    TYPE_FLOAT = 2;",
    "    TYPE_INT64 = 3;",
    "    TYPE_UINT64 = 4;",
    "    TYPE_INT32 = 5;",
    "    TYPE_FIXED64 = 6;",
    "    TYPE_FIXED32 = 7;",
    "    TYPE_BOOL = 8;",
    "    TYPE_STRING = 9;",
    "    TYPE_GROUP = 10;",
    "    TYPE_MESSAGE = 11;",
    "    TYPE_BYTES = 12;",
    "    TYPE_UINT32 = 13;",
    "    TYPE_ENUM = 14;",
    "    TYPE_SFIXED32 = 15;",
    "    TYPE_SFIXED64 = 16;",
    "    TYPE_SINT32 = 17;",
    "    TYPE_SINT64 = 18;",
    "  \x7d",
    "  enum Label \x7b",
    "    LABEL_OPTIONAL = 1;",
    "    LABEL_REPEATED = 3;",
    "    LABEL_REQUIRED = 2;",
    "  \x7d",
    "  optional string name = 1;",
    "  optional int32 number = 3;",
    "  optional Label label = 4;",
    "  optional Type type = 5;",
    "  optional string type_name = 6;",
    "  optional string extendee = 2;",
    "  optional string default_value = 7;",
    "  optional int32 oneof_index = 9;",
    "  optional string json_name = 10;",
    "  optional FieldOptions options = 8;",
    "  optional bool proto3_optional = 17;",
    "\x7d",
    "message OneofDescriptorProto \x7b",
    "  optional string name = 1;",
    "  optional OneofOptions options = 2;",
    "\x7d",
    "message EnumDescriptorProto \x7b",
    "  optional string name = 1;",
    "  repeated EnumValueDescriptorProto value = 2;",
    "  optional EnumOptions options = 3;",
    "  message EnumReservedRange \x7b",
    "    optional int32 start = 1;",
    "    optional int32 end = 2;",
    "  \x7d",
    "  repeated EnumReservedRange reserved_range = 4;",
    "  repeated string reserved_name = 5;",
    "  optional SymbolVisibility visibility = 6;",
    "\x7d",
    "message EnumValueDescriptorProto \x7b",
    "  optional string name = 1;",
    "  optional int32 number = 2;",
    "  optional EnumValueOptions options = 3;",
    "\x7d",
    "message ServiceDescriptorProto \x7b",
    "  optional string name = 1;",
    "  repeated MethodDescriptorProto method = 2;",
    "  optional ServiceOptions options = 3;",
    "\x7d",
    "message MethodDescriptorProto \x7b",
    "  optional string name = 1;",
    "  optional string input_type = 2;",
    "  optional string output_type = 3;",
    "  optional MethodOptions options = 4;",
    "  optional bool client_streaming = 5 [default = false];",
    "  optional bool server_streaming = 6 [default = false];",
    "\x7d",
    "message FileOptions \x7b",
    "  optional string java_package = 1;",
    "  optional string java_outer_classname = 8;",
    "  optional bool java_multiple_files = 10 [default = false,",
    "    feature_support = \x7b edition_removed: EDITION_2024 \x7d];",
    "  optional bool java_generate_equals_and_hash = 20 [deprecated = true];",
    "  optional bool java_string_check_utf8 = 27 [default = false];",
    "  enum OptimizeMode \x7b",
    "    SPEED = 1;",
    "    CODE_SIZE = 2;",
    "    LITE_RUNTIME = 3;",
    "  \x7d",
    "  optional OptimizeMode optimize_for = 9 [default = SPEED];",
    "  optional string go_package = 11;",
    "  optional bool cc_generic_services = 16 [default = false];",
    "  optional bool java_generic_services = 17 [default = false];",
    "  optional bool py_generic_services = 18 [default = false];",
    "  reserved 42;",
    "  reserved \"php_generic_services\";",
    "  optional bool deprecated = 23 [default = false];",
    "  optional bool cc_enable_arenas = 31 [default = true];",
    "  optional string objc_class_prefix = 36;",
    "  optional string csharp_namespace = 37;",
    "  optional string swift_prefix = 39;",
    "  optional string php_class_prefix = 40;",
    "  optional string php_namespace = 41;",
    "  optional string php_metadata_namespace = 44;",
    "  optional string ruby_package = 45;",
    "  optional FeatureSet features = 50;",
    "  repeated UninterpretedOption uninterpreted_option = 999;",
    "  extensions 1000 to max;",
    "  reserved 38;",
    "\x7d",
    "message MessageOptions \x7b",
    "  optional bool message_set_wire_format = 1 [default = false];",
    "  optional bool no_standard_descriptor_accessor = 2 [default = false];",
    "  optional bool deprecated = 3 [default = false];",
    "  reserved 4, 5, 6;",
    "  optional bool map_entry = 7;",
    "  reserved 8;",
    "  reserved 9;",
    "  optional bool deprecated_legacy_json_field_conflicts = 11 [deprecated = true];",
    "  optional FeatureSet features = 12;",
    "  repeated UninterpretedOption uninterpreted_option = 999;",
    "  extensions 1000 to max;",
    "\x7d",
    "message FieldOptions \x7b",
    "  optional CType ctype = 1 [default = STRING,",
    "    feature_support = \x7b edition_removed: EDITION_2024 \x7d];",
    "  enum CType \x7b",
    "    STRING = 0;",
    "    CORD = 1;",
    "    STRING_PIECE = 2;",
    "  \x7d",
    "  optional bool packed = 2;",
    "  optional JSType jstype = 6 [default = JS_NORMAL];",
    "  enum JSType \x7b",
    "    JS_NORMAL = 0;",
    "    JS_STRING = 1;",
    "    JS_NUMBER = 2;",
    "  \x7d",
    "  optional bool lazy = 5 [default = false];",
    "  optional bool unverified_lazy = 15 [default = false];",
    "  optional bool deprecated = 3 [default = false];",
    "  optional bool weak = 10 [default = false, deprecated = true,",
    "    feature_support = \x7b edition_removed: EDITION_2024 \x7d];",
    "  optional bool debug_redact = 16 [default = false];",
    "  enum OptionRetention \x7b",
    "    RETENTION_UNKNOWN = 0;",
    "    RETENTION_RUNTIME = 1;",
    "    RETENTION_SOURCE = 2;",
    "  \x7d",
    "  optional OptionRetention retention = 17;",
    "  enum OptionTargetType \x7b",
    "    TARGET_TYPE_UNKNOWN = 0;",
    "    TARGET_TYPE_FILE = 1;",
    "    TARGET_TYPE_EXTENSION_RANGE = 2;",
    "    TARGET_TYPE_MESSAGE = 3;",
    "    TARGET_TYPE_FIELD = 4;",
    "    TARGET_TYPE_ONEOF = 5;",
    "    TARGET_TYPE_ENUM = 6;",
    "    TARGET_TYPE_ENUM_ENTRY = 7;",
    "    TARGET_TYPE_SERVICE = 8;",
    "    TARGET_TYPE_METHOD = 9;",
    "  \x7d",
    "  repeated OptionTargetType targets = 19;",
    "  message EditionDefault \x7b",
    "    optional Edition edition = 3;",
    "    optional string value = 2;",
    "  \x7d",
    "  repeated EditionDefault edition_defaults = 20;",
    "  optional FeatureSet features = 21;",
    "  message FeatureSupport \x7b",
    "    optional Edition edition_introduced = 1;",
    "    optional Edition edition_deprecated = 2;",
    "    optional string deprecation_warning = 3;",
    "    optional Edition edition_removed = 4;",
    "    optional string removal_error = 5;",
    "  \x7d",
    "  optional FeatureSupport feature_support = 22;",
    "  repeated UninterpretedOption uninterpreted_option = 999;",
    "  extensions 1000 to max;",
    "  reserved 4;",
    "  reserved 18;",
    "\x7d",
    "message OneofOptions \x7b",
    "  optional FeatureSet features = 1;",
    "  repeated UninterpretedOption uninterpreted_option = 999;",
    "  extensions 1000 to max;",
    "\x7d",
    "message EnumOptions \x7b",
    "  optional bool allow_alias = 2;",
    "  optional bool deprecated = 3 [default = false];",
    "  reserved 5;",
    "  optional bool deprecated_legacy_json_field_conflicts = 6 [deprecated = true];",
    "  optional FeatureSet features = 7;",
    "  repeated UninterpretedOption uninterpreted_option = 999;",
    "  extensions 1000 to max;",
    "\x7d",
    "message EnumValueOptions \x7b",
    "  optional bool deprecated = 1 [default = false];",
    "  optional FeatureSet features = 2;",
    "  optional bool debug_redact = 3 [default = false];",
    "  optional FieldOptions.FeatureSupport feature_support = 4;",
    "  repeated UninterpretedOption uninterpreted_option = 999;",
    "  extensions 1000 to max;",
    "\x7d",
    "message ServiceOptions \x7b",
    "  optional FeatureSet features = 34;",
    "  optional bool deprecated = 33 [default = false];",
    "  repeated UninterpretedOption uninterpreted_option = 999;",
    "  extensions 1000 to max;",
    "\x7d",
    "message MethodOptions \x7b",
    "  optional bool deprecated = 33 [default = false];",
    "  enum IdempotencyLevel \x7b",
    "    IDEMPOTENCY_UNKNOWN = 0;",
    "    NO_SIDE_EFFECTS = 1;",
    "    IDEMPOTENT = 2;",
    "  \x7d",
    "  optional IdempotencyLevel idempotency_level = 34 [default = IDEMPOTENCY_UNKNOWN];",
    "  optional FeatureSet features = 35;",
    "  repeated UninterpretedOption uninterpreted_option = 999;",
    "  extensions 990 to 998, 1000 to max;",
    "\x7d",
    "message UninterpretedOption \x7b",
    "  message NamePart \x7b",
    "    required string name_part = 1;",
    "    required bool is_extension = 2;",
    "  \x7d",
    "  repeated NamePart name = 2;",
    "  optional string identifier_value = 3;",
    "  optional uint64 positive_int_value = 4;",
    "  optional int64 negative_int_value = 5;",
    "  optional double double_value = 6;",
    "  optional bytes string_value = 7;",
    "  optional string aggregate_value = 8;",
    "\x7d",
    "message FeatureSet \x7b",
    "  enum FieldPresence \x7b",
    "    FIELD_PRESENCE_UNKNOWN = 0;",
    "    EXPLICIT = 1;",
    "    IMPLICIT = 2;",
    "    LEGACY_REQUIRED = 3;",
    "  \x7d",
    "  optional FieldPresence field_presence = 1 [targets = TARGET_TYPE_FIELD,",
    "    targets = TARGET_TYPE_FILE,",
    "    feature_support = \x7b edition_introduced: EDITION_2023 \x7d];",
    "  enum EnumType \x7b",
    "    ENUM_TYPE_UNKNOWN = 0;",
    "    OPEN = 1;",
    "    CLOSED = 2;",
    "  \x7d",
    "  optional EnumType enum_type = 2 [targets = TARGET_TYPE_ENUM,",
    "    targets = TARGET_TYPE_FILE,",
    "    feature_support = \x7b edition_introduced: EDITION_2023 \x7d];",
    "  enum RepeatedFieldEncoding \x7b",
    "    REPEATED_FIELD_ENCODING_UNKNOWN = 0;",
    "    PACKED = 1;",
    "    EXPANDED = 2;",
    "  \x7d",
    "  optional RepeatedFieldEncoding repeated_field_encoding = 3",
    "    [targets = TARGET_TYPE_FIELD, targets = TARGET_TYPE_FILE,",
    "     feature_support = \x7b edition_introduced: EDITION_2023 \x7d];",
    "  enum Utf8Validation \x7b",
    "    UTF8_VALIDATION_UNKNOWN = 0;",
    "    VERIFY = 2;",
    "    NONE = 3;",
    "    reserved 1;",
    "  \x7d",
    "  optional Utf8Validation utf8_validation = 4 [targets = TARGET_TYPE_FIELD,",
    "    targets = TARGET_TYPE_FILE,",
    "    feature_support = \x7b edition_introduced: EDITION_2023 \x7d];",
    "  enum MessageEncoding \x7b",
    "    MESSAGE_ENCODING_UNKNOWN = 0;",
    "    LENGTH_PREFIXED = 1;",
    "    DELIMITED = 2;",
    "  \x7d",
    "  optional MessageEncoding message_encoding = 5 [targets = TARGET_TYPE_FIELD,",
    "    targets = TARGET_TYPE_FILE,",
    "    feature_support = \x7b edition_introduced: EDITION_2023 \x7d];",
    "  enum JsonFormat \x7b",
    "    JSON_FORMAT_UNKNOWN = 0;",
    "    ALLOW = 1;",
    "    LEGACY_BEST_EFFORT = 2;",
    "  \x7d",
    "  optional JsonFormat json_format = 6 [targets = TARGET_TYPE_MESSAGE,",
    "    targets = TARGET_TYPE_ENUM, targets = TARGET_TYPE_FILE,",
    "    feature_support = \x7b edition_introduced: EDITION_2023 \x7d];",
    "  enum EnforceNamingStyle \x7b",
    "    ENFORCE_NAMING_STYLE_UNKNOWN = 0;",
    "    STYLE2024 = 1;",
    "    STYLE_LEGACY = 2;",
    "  \x7d",
    "  optional EnforceNamingStyle enforce_naming_style = 7 [retention = RETENTION_SOURCE,",
    "    targets = TARGET_TYPE_FILE, targets = TARGET_TYPE_EXTENSION_RANGE,",
    "    targets = TARGET_TYPE_MESSAGE, targets = TARGET_TYPE_FIELD, targets = TARGET_TYPE_ONEOF,",
    "    targets = TARGET_TYPE_ENUM, targets = TARGET_TYPE_ENUM_ENTRY,",
    "    targets = TARGET_TYPE_SERVICE, targets = TARGET_TYPE_METHOD,",
    "    feature_support = \x7b edition_introduced: EDITION_2024 \x7d];",
    "  message VisibilityFeature \x7b",
    "    enum DefaultSymbolVisibility \x7b",
    "      DEFAULT_SYMBOL_VISIBILITY_UNKNOWN = 0;",
    "      EXPORT_ALL = 1;",
    "      EXPORT_TOP_LEVEL = 2;",
    "      LOCAL_ALL = 3;",
    "      STRICT = 4;",
    "    \x7d",
    "    reserved 1 to max;",
    "  \x7d",
    "  optional VisibilityFeature.DefaultSymbolVisibility default_symbol_visibility = 8",
    "    [retention = RETENTION_SOURCE, targets = TARGET_TYPE_FILE,",
    "     feature_support = \x7b edition_introduced: EDITION_2024 \x7d];",
    "  reserved 999;",
    "  extensions 1000 to 9994;",
    "  extensions 9995 to 9999;",
    "  extensions 10000;",
    "\x7d",
    "message FeatureSetDefaults \x7b",
    "  message FeatureSetEditionDefault \x7b",
    "    optional Edition edition = 3;",
    "    optional FeatureSet overridable_features = 4;",
    "    optional FeatureSet fixed_features = 5;",
    "    reserved 1, 2;",
    "    reserved \"features\";",
    "  \x7d",
    "  repeated FeatureSetEditionDefault defaults = 1;",
    "  optional Edition minimum_edition = 4;",
    "  optional Edition maximum_edition = 5;",
    "\x7d",
    "message SourceCodeInfo \x7b",
    "  repeated Location location = 1;",
    "  message Location \x7b",
    "    repeated int32 path = 1 [packed = true];",
    "    repeated int32 span = 2 [packed = true];",
    "    optional string leading_comments = 3;",
    "    optional string trailing_comments = 4;",
    "    repeated string leading_detached_comments = 6;",
    "  \x7d",
    "  extensions 536000000;",
    "\x7d",
    "message GeneratedCodeInfo \x7b",
    "  repeated Annotation annotation = 1;",
    "  message Annotation \x7b",
    "    repeated int32 path = 1 [packed = true];",
    "    optional string source_file = 2;",
    "    optional int32 begin = 3;",
    "    optional int32 end = 4;",
    "    enum Semantic \x7b",
    "      NONE = 0;",
    "      SET = 1;",
    "      ALIAS = 2;",
    "    \x7d",
    "    optional Semantic semantic = 5;",
    "  \x7d",
    "\x7d",
    "enum SymbolVisibility \x7b",
    "  VISIBILITY_UNSET = 0;",
    "  VISIBILITY_LOCAL = 1;",
    "  VISIBILITY_EXPORT = 2;",
    "\x7d"]

/-- Features of the generator for one target. -/
def cppFeaturesSource : String :=
  sourceText [
    "edition = \"2023\";",
    "package pb;",
    "import \"google/protobuf/descriptor.proto\";",
    "extend google.protobuf.FeatureSet \x7b",
    "  CppFeatures cpp = 1000;",
    "\x7d",
    "message CppFeatures \x7b",
    "  bool legacy_closed_enum = 1 [targets = TARGET_TYPE_FIELD, targets = TARGET_TYPE_FILE,",
    "    feature_support = \x7b edition_introduced: EDITION_2023 \x7d];",
    "  enum StringType \x7b",
    "    STRING_TYPE_UNKNOWN = 0;",
    "    VIEW = 1;",
    "    CORD = 2;",
    "    STRING = 3;",
    "  \x7d",
    "  StringType string_type = 2 [targets = TARGET_TYPE_FIELD, targets = TARGET_TYPE_FILE,",
    "    feature_support = \x7b edition_introduced: EDITION_2023 \x7d];",
    "  bool enum_name_uses_string_view = 3 [retention = RETENTION_SOURCE,",
    "    targets = TARGET_TYPE_ENUM, targets = TARGET_TYPE_FILE,",
    "    feature_support = \x7b edition_introduced: EDITION_2024 \x7d];",
    "\x7d"]

/-- Features of the generator for another target. -/
def goFeaturesSource : String :=
  sourceText [
    "syntax = \"proto2\";",
    "package pb;",
    "import \"google/protobuf/descriptor.proto\";",
    "extend google.protobuf.FeatureSet \x7b",
    "  optional GoFeatures go = 1002;",
    "\x7d",
    "message GoFeatures \x7b",
    "  optional bool legacy_unmarshal_json_enum = 1 [targets = TARGET_TYPE_ENUM,",
    "    targets = TARGET_TYPE_FILE,",
    "    feature_support = \x7b edition_introduced: EDITION_2023 \x7d];",
    "  enum APILevel \x7b",
    "    API_LEVEL_UNSPECIFIED = 0;",
    "    API_OPEN = 1;",
    "    API_HYBRID = 2;",
    "    API_OPAQUE = 3;",
    "  \x7d",
    "  optional APILevel api_level = 2 [targets = TARGET_TYPE_MESSAGE,",
    "    targets = TARGET_TYPE_FILE,",
    "    feature_support = \x7b edition_introduced: EDITION_2023 \x7d];",
    "  enum StripEnumPrefix \x7b",
    "    STRIP_ENUM_PREFIX_UNSPECIFIED = 0;",
    "    STRIP_ENUM_PREFIX_KEEP = 1;",
    "    STRIP_ENUM_PREFIX_GENERATE_BOTH = 2;",
    "    STRIP_ENUM_PREFIX_STRIP = 3;",
    "  \x7d",
    "  optional StripEnumPrefix strip_enum_prefix = 3 [targets = TARGET_TYPE_ENUM,",
    "    targets = TARGET_TYPE_ENUM_ENTRY, targets = TARGET_TYPE_FILE,",
    "    feature_support = \x7b edition_introduced: EDITION_2024 \x7d];",
    "\x7d"]

/-- Features of the generator for a third target. -/
def javaFeaturesSource : String :=
  sourceText [
    "syntax = \"proto2\";",
    "package pb;",
    "import \"google/protobuf/descriptor.proto\";",
    "extend google.protobuf.FeatureSet \x7b",
    "  optional JavaFeatures java = 1001;",
    "\x7d",
    "message JavaFeatures \x7b",
    "  optional bool legacy_closed_enum = 1 [targets = TARGET_TYPE_FIELD,",
    "    targets = TARGET_TYPE_FILE,",
    "    feature_support = \x7b edition_introduced: EDITION_2023 \x7d];",
    "  enum Utf8Validation \x7b",
    "    UTF8_VALIDATION_UNKNOWN = 0;",
    "    DEFAULT = 1;",
    "    VERIFY = 2;",
    "  \x7d",
    "  optional Utf8Validation utf8_validation = 2 [targets = TARGET_TYPE_FIELD,",
    "    targets = TARGET_TYPE_FILE,",
    "    feature_support = \x7b edition_introduced: EDITION_2023 \x7d];",
    "  optional bool large_enum = 3 [targets = TARGET_TYPE_ENUM, targets = TARGET_TYPE_FILE,",
    "    feature_support = \x7b edition_introduced: EDITION_2024 \x7d];",
    "  optional bool use_old_outer_classname_default = 4 [targets = TARGET_TYPE_FILE,",
    "    feature_support = \x7b edition_introduced: EDITION_2024 \x7d];",
    "  message NestInFileClassFeature \x7b",
    "    enum NestInFileClass \x7b",
    "      NEST_IN_FILE_CLASS_UNKNOWN = 0;",
    "      NO = 1;",
    "      YES = 2;",
    "      LEGACY = 3;",
    "    \x7d",
    "    reserved 1 to max;",
    "  \x7d",
    "  optional NestInFileClassFeature.NestInFileClass nest_in_file_class = 5",
    "    [targets = TARGET_TYPE_MESSAGE, targets = TARGET_TYPE_ENUM,",
    "     targets = TARGET_TYPE_SERVICE,",
    "     feature_support = \x7b edition_introduced: EDITION_2024 \x7d];",
    "\x7d"]

/-- What a compiler and its generators say to each other. -/
def pluginSource : String :=
  sourceText [
    "syntax = \"proto2\";",
    "package google.protobuf.compiler;",
    "import \"google/protobuf/descriptor.proto\";",
    "message Version \x7b",
    "  optional int32 major = 1;",
    "  optional int32 minor = 2;",
    "  optional int32 patch = 3;",
    "  optional string suffix = 4;",
    "\x7d",
    "message CodeGeneratorRequest \x7b",
    "  repeated string file_to_generate = 1;",
    "  optional string parameter = 2;",
    "  repeated FileDescriptorProto proto_file = 15;",
    "  repeated FileDescriptorProto source_file_descriptors = 17;",
    "  optional Version compiler_version = 3;",
    "\x7d",
    "message CodeGeneratorResponse \x7b",
    "  optional string error = 1;",
    "  optional uint64 supported_features = 2;",
    "  enum Feature \x7b",
    "    FEATURE_NONE = 0;",
    "    FEATURE_PROTO3_OPTIONAL = 1;",
    "    FEATURE_SUPPORTS_EDITIONS = 2;",
    "  \x7d",
    "  optional int32 minimum_edition = 3;",
    "  optional int32 maximum_edition = 4;",
    "  message File \x7b",
    "    optional string name = 1;",
    "    optional string insertion_point = 2;",
    "    optional string content = 15;",
    "    optional GeneratedCodeInfo generated_code_info = 16;",
    "  \x7d",
    "  repeated File file = 15;",
    "\x7d"]

/-- The sources of the well-known schemas by import name. -/
def sources : List (String × String) :=
  [("google/protobuf/any.proto", anySource),
   ("google/protobuf/source_context.proto", sourceContextSource),
   ("google/protobuf/type.proto", typeSource),
   ("google/protobuf/api.proto", apiSource),
   ("google/protobuf/duration.proto", durationSource),
   ("google/protobuf/empty.proto", emptySource),
   ("google/protobuf/field_mask.proto", fieldMaskSource),
   ("google/protobuf/struct.proto", structSource),
   ("google/protobuf/timestamp.proto", timestampSource),
   ("google/protobuf/wrappers.proto", wrappersSource),
   ("google/protobuf/descriptor.proto", descriptorSource),
   ("google/protobuf/cpp_features.proto", cppFeaturesSource),
   ("google/protobuf/go_features.proto", goFeaturesSource),
   ("google/protobuf/java_features.proto", javaFeaturesSource),
   ("google/protobuf/compiler/plugin.proto", pluginSource)]

/-- The well-known schemas. -/
def files : List FileDecl :=
  sources.filterMap fun (name, source) => (parseFile name source.toList).toOption

end TypedFetch.Proto.WellKnown
